import Mathlib
import Readership.Archive.Aggregation

/-!
# Groups of views

An answer groups the selected views by bucket and keys. What it should say needs
no accumulators: there is one row for each bucket and keys that some view has, and
each count of a row is a count over the views that have them (`IsGrouping`). The
tables go through the views once and keep, for each group met so far, the counts
so far; the invariant of that pass (`Accumulated`) is that the groups are those of
the views behind it, each once, with the counts over them. Adding a view keeps it
(`Accumulated.step`), so after the last view the groups are the answer
(`accumulated_foldl`).

A count of different values leaves null out, but null is a key like others: the
groups share out all selected views, and a column of numbers of views sums to the
number of them (`IsGrouping.sum_value`).
-/

namespace Readership

/-- **A count over views**: how many they are, or how many different values they
have in a field, null apart. -/
def Aggregate.value (vs : List (View × ViewRecord)) : Aggregate → Nat
  | .count => vs.length
  | .distinct f => ((vs.map fun v => v.2 f).toFinset.erase .null).card

/-- **The group that a view belongs to**: the first day of its bucket, and its values in the
fields that the plan groups by. -/
def Plan.groupOf (plan : Plan) (v : View × ViewRecord) : GroupKey :=
  ⟨plan.bucket.map fun bucket => bucket.truncate v.1.time, plan.groupBy.map fun f => v.2 f⟩

/-- The views with a bucket and keys. -/
def Plan.viewsOf (plan : Plan) (vs : List (View × ViewRecord)) (key : GroupKey) :
    List (View × ViewRecord) :=
  vs.filter fun v => plan.groupOf v = key

/-- The bucket and the keys of a row. -/
def Row.groupKey (row : Row) : GroupKey :=
  ⟨row.bucket, row.keys⟩

/-- **The rows are the groups of the views**: one row for each bucket and keys that
occur, with the counts over the views that have them. -/
structure IsGrouping (plan : Plan) (vs : List (View × ViewRecord)) (rows : List Row) : Prop where
  nodup : (rows.map Row.groupKey).Nodup
  mem_iff : ∀ key, key ∈ rows.map Row.groupKey ↔ ∃ v ∈ vs, plan.groupOf v = key
  values : ∀ row ∈ rows,
    row.values = plan.aggregates.map (Aggregate.value (plan.viewsOf vs row.groupKey))

variable {plan : Plan}

/-! ## Counts in the making -/

namespace Tally

/-- The count that has gone through some views. -/
def after (vs : List (View × ViewRecord)) (a : Aggregate) : Tally :=
  vs.foldl (fun tally v => tally.add v.2 a) (start a)

theorem after_concat (vs : List (View × ViewRecord)) (v : View × ViewRecord) (a : Aggregate) :
    after (vs ++ [v]) a = (after vs a).add v.2 a := by
  rw [after, List.foldl_append]
  rfl

theorem after_count (vs : List (View × ViewRecord)) : after vs .count = .count vs.length := by
  induction vs using List.reverseRecOn with
  | nil => rfl
  | append_singleton vs v ih =>
    rw [after_concat, ih, List.length_append]
    rfl

/-- **The values seen so far** are the different values so far, each once, without
null. -/
theorem after_distinct (vs : List (View × ViewRecord)) (f : Field) :
    ∃ seen, after vs (.distinct f) = .distinct seen ∧ seen.Nodup ∧
      seen.toFinset = (vs.map fun v => v.2 f).toFinset.erase .null := by
  induction vs using List.reverseRecOn with
  | nil => exact ⟨[], rfl, List.nodup_nil, rfl⟩
  | append_singleton vs v ih =>
    obtain ⟨seen, hseen, hnodup, hvalues⟩ := ih
    have hmap : ((vs ++ [v]).map fun v => v.2 f).toFinset.erase .null
        = (insert (v.2 f) (vs.map fun v => v.2 f).toFinset).erase .null := by
      congr 1
      ext x
      simp
    rw [after_concat, hseen, hmap]
    by_cases hnull : v.2 f = .null
    · refine ⟨seen, by simp [add, hnull], hnodup, ?_⟩
      rw [hnull, hvalues, Finset.erase_insert_eq_erase]
    · rw [Finset.erase_insert_of_ne hnull, ← hvalues]
      by_cases hmem : v.2 f ∈ seen
      · refine ⟨seen, by simp [add, hmem], hnodup, ?_⟩
        rw [Finset.insert_eq_of_mem (List.mem_toFinset.mpr hmem)]
      · refine ⟨v.2 f :: seen, ?_, List.nodup_cons.mpr ⟨hmem, hnodup⟩, List.toFinset_cons⟩
        simp [add, FieldValue.isNull_eq_false hnull, hmem]

/-- **A finished count** is the count over the views it has gone through. -/
theorem finish_after (vs : List (View × ViewRecord)) (a : Aggregate) :
    (after vs a).finish = a.value vs := by
  cases a with
  | count => rw [after_count]; rfl
  | distinct f =>
    obtain ⟨seen, hseen, hnodup, hvalues⟩ := after_distinct vs f
    rw [hseen, Aggregate.value, ← hvalues, List.toFinset_card_of_nodup hnodup]
    rfl

end Tally

/-! ## Groups in the making -/

namespace Group

/-- A view is added to the group that it belongs to. -/
theorem keyOf_eq (plan : Plan) (v : View × ViewRecord) : keyOf plan v = plan.groupOf v := rfl

/-- One more view for every count of a plan. -/
theorem addTo_map (r : ViewRecord) (tally : Aggregate → Tally) :
    addTo plan r (plan.aggregates.map tally) = plan.aggregates.map fun a => (tally a).add r a := by
  rw [addTo, List.zipWith_map_right, List.zipWith_self]

/-- **The keys after one more view**: a new key comes last. -/
theorem map_key_insert (key : GroupKey) (r : ViewRecord) (gs : List Group) :
    (insert plan key r gs).map Group.key
      = if key ∈ gs.map Group.key then gs.map Group.key else gs.map Group.key ++ [key] := by
  induction gs with
  | nil => rfl
  | cons g rest ih =>
    rw [insert]
    by_cases hg : g.key = key
    · simp [hg]
    · have hne : ¬key = g.key := fun h => hg h.symm
      rw [if_neg hg, List.map_cons, ih, List.map_cons]
      simp only [List.mem_cons, hne, false_or]
      split <;> rfl

/-- **What one more view does to a group.** Another group stays as it was; the
group of the view has one more view, or begins with it. -/
theorem mem_insert {key : GroupKey} {r : ViewRecord} {gs : List Group}
    (hnodup : (gs.map Group.key).Nodup) {g : Group} (h : g ∈ insert plan key r gs) :
    (g.key ≠ key ∧ g ∈ gs) ∨
    (g.key = key ∧ ∃ old ∈ gs, old.key = key ∧ g.tallies = addTo plan r old.tallies) ∨
    (g.key = key ∧ key ∉ gs.map Group.key ∧
      g.tallies = addTo plan r (plan.aggregates.map Tally.start)) := by
  induction gs with
  | nil =>
    cases List.mem_singleton.mp h
    exact .inr (.inr ⟨rfl, List.not_mem_nil, rfl⟩)
  | cons first rest ih =>
    obtain ⟨hfirst, hrest⟩ := List.nodup_cons.mp hnodup
    rw [insert] at h
    by_cases hkey : first.key = key
    · rw [if_pos hkey] at h
      rcases List.mem_cons.mp h with rfl | hmem
      · exact .inr (.inl ⟨hkey, first, List.mem_cons_self, hkey, rfl⟩)
      · -- keys are unique, so no group behind the first has its key
        refine .inl ⟨fun heq => hfirst ?_, List.mem_cons_of_mem first hmem⟩
        rw [hkey, ← heq]
        exact List.mem_map_of_mem hmem
    · rw [if_neg hkey] at h
      rcases List.mem_cons.mp h with rfl | hmem
      · exact .inl ⟨hkey, List.mem_cons_self⟩
      · rcases ih hrest hmem with ⟨hne, hg⟩ | ⟨hg, old, hold, hsame⟩ | ⟨hg, hnew, hstart⟩
        · exact .inl ⟨hne, List.mem_cons_of_mem first hg⟩
        · exact .inr (.inl ⟨hg, old, List.mem_cons_of_mem first hold, hsame⟩)
        · refine .inr (.inr ⟨hg, ?_, hstart⟩)
          rw [List.map_cons, List.mem_cons]
          exact not_or.mpr ⟨fun heq => hkey heq.symm, hnew⟩

end Group

/-- **The groups after some views**: those of the views, each once, with the counts
that have gone through its views. -/
structure Accumulated (plan : Plan) (vs : List (View × ViewRecord)) (gs : List Group) : Prop where
  nodup : (gs.map Group.key).Nodup
  mem_iff : ∀ key, key ∈ gs.map Group.key ↔ ∃ v ∈ vs, plan.groupOf v = key
  tallies : ∀ g ∈ gs,
    g.tallies = plan.aggregates.map (Tally.after (plan.viewsOf vs g.key))

theorem accumulated_nil : Accumulated plan [] [] :=
  ⟨List.nodup_nil, fun _ => by simp, fun _ hg => nomatch hg⟩

/-- One more view is one more of the views of its group and no other. -/
theorem Plan.viewsOf_concat (vs : List (View × ViewRecord)) (v : View × ViewRecord)
    (key : GroupKey) :
    plan.viewsOf (vs ++ [v]) key
      = plan.viewsOf vs key ++ if plan.groupOf v = key then [v] else [] := by
  rw [Plan.viewsOf, List.filter_append, Plan.viewsOf]
  by_cases h : plan.groupOf v = key <;> simp [h]

/-- **One more view keeps the invariant.** -/
theorem Accumulated.step {vs : List (View × ViewRecord)} {gs : List Group}
    (h : Accumulated plan vs gs) (v : View × ViewRecord) :
    Accumulated plan (vs ++ [v]) (Group.insert plan (plan.groupOf v) v.2 gs) where
  nodup := by
    rw [Group.map_key_insert]
    split
    · exact h.nodup
    · rename_i hnew
      exact List.nodup_append.mpr ⟨h.nodup, List.nodup_singleton _,
        fun a ha b hb hab => hnew (List.mem_singleton.mp hb ▸ hab ▸ ha)⟩
  mem_iff := by
    intro key
    have hkey : (∃ w ∈ vs ++ [v], plan.groupOf w = key)
        ↔ key ∈ gs.map Group.key ∨ plan.groupOf v = key := by
      rw [h.mem_iff]
      simp [or_and_right, exists_or]
    rw [hkey, Group.map_key_insert]
    split
    · rename_i hold
      exact ⟨.inl, fun h => h.elim id fun heq => heq ▸ hold⟩
    · rw [List.mem_append, List.mem_singleton, eq_comm]
  tallies := by
    intro g hg
    rw [Plan.viewsOf_concat]
    rcases Group.mem_insert h.nodup hg with ⟨hne, hmem⟩ | ⟨hkey, old, hold, hsame, htallies⟩ |
      ⟨hkey, hnew, htallies⟩
    · -- another group has the views it had
      rw [if_neg hne.symm, List.append_nil]
      exact h.tallies g hmem
    · rw [if_pos hkey.symm, htallies, h.tallies old hold, Group.addTo_map, hsame, hkey]
      exact List.map_congr_left fun a _ => (Tally.after_concat _ v a).symm
    · -- a group that was not there had no views
      have hnone : plan.viewsOf vs g.key = [] := by
        refine List.filter_eq_nil_iff.mpr fun w hw heq => hnew ?_
        exact (h.mem_iff _).mpr ⟨w, hw, hkey ▸ of_decide_eq_true heq⟩
      rw [if_pos hkey.symm, htallies, Group.addTo_map, hnone]
      rfl

/-- **The pass over all views.** -/
theorem accumulated_foldl (vs : List (View × ViewRecord)) :
    Accumulated plan vs
      (vs.foldl (fun gs v => Group.insert plan (Group.keyOf plan v) v.2 gs) []) := by
  induction vs using List.reverseRecOn with
  | nil => exact accumulated_nil
  | append_singleton vs v ih =>
    rw [List.foldl_append, List.foldl_cons, List.foldl_nil, Group.keyOf_eq]
    exact ih.step v

/-- **Finished groups are the groups of the views**, in whatever order. -/
theorem Accumulated.isGrouping {vs : List (View × ViewRecord)} {gs : List Group}
    (h : Accumulated plan vs gs) {rows : List Row} (hrows : rows.Perm (gs.map Group.toRow)) :
    IsGrouping plan vs rows := by
  have hkeys : (gs.map Group.toRow).map Row.groupKey = gs.map Group.key := by
    rw [List.map_map]
    rfl
  refine ⟨?_, fun key => ?_, fun row hrow => ?_⟩
  · rw [(hrows.map Row.groupKey).nodup_iff, hkeys]
    exact h.nodup
  · rw [(hrows.map Row.groupKey).mem_iff, hkeys]
    exact h.mem_iff key
  · obtain ⟨g, hg, rfl⟩ := List.mem_map.mp (hrows.mem_iff.mp hrow)
    show g.tallies.map Tally.finish = _
    rw [h.tallies g hg, List.map_map]
    exact List.map_congr_left fun a _ => Tally.finish_after _ a

/-! ## Answers -/

/-- The views of a group are as many as have its key. -/
theorem length_viewsOf (vs : List (View × ViewRecord)) (key : GroupKey) :
    (plan.viewsOf vs key).length = (vs.map plan.groupOf).count key := by
  rw [Plan.viewsOf, ← List.countP_eq_length_filter, List.count, List.countP_map]
  rfl

namespace IsGrouping

variable {vs : List (View × ViewRecord)} {rows rows' : List Row} {i : Nat}

/-- **A number of views in a row** is that of the views of its group. -/
theorem value_eq_length (h : IsGrouping plan vs rows) (hi : plan.aggregates[i]? = some .count)
    {row : Row} (hrow : row ∈ rows) :
    row.value i = (plan.viewsOf vs row.groupKey).length := by
  rw [Row.value, h.values row hrow, List.getElem?_map, hi]
  rfl

/-- **Some of the rows have the views of their groups between them**: a column of numbers of
views sums over the rows whose groups are picked to the number of the views of these
groups. -/
theorem sum_filter_value (h : IsGrouping plan vs rows) (hi : plan.aggregates[i]? = some .count)
    (picked : GroupKey → Bool) :
    ((rows.filter fun row => picked row.groupKey).map (·.value i)).sum
      = (vs.filter fun v => picked (plan.groupOf v)).length := by
  have hvalue : (rows.filter fun row => picked row.groupKey).map (·.value i)
      = ((rows.map Row.groupKey).filter picked).map
          fun key => (vs.map plan.groupOf).count key := by
    rw [List.filter_map, List.map_map]
    refine List.map_congr_left fun row hrow => ?_
    rw [h.value_eq_length hi (List.mem_filter.mp hrow).1]
    exact length_viewsOf vs row.groupKey
  have hkeys : (rows.map Row.groupKey).Perm (vs.map plan.groupOf).dedup := by
    refine (List.perm_ext_iff_of_nodup h.nodup (List.nodup_dedup _)).mpr fun key => ?_
    rw [h.mem_iff, List.mem_dedup, List.mem_map]
  rw [hvalue, ((hkeys.filter picked).map _).sum_eq, List.sum_map_count_dedup_filter_eq_countP,
    List.countP_map, List.countP_eq_length_filter]
  rfl

/-- **A column of numbers of views sums to the number of views**, as the groups
share them out. -/
theorem sum_value (h : IsGrouping plan vs rows) (hi : plan.aggregates[i]? = some .count) :
    (rows.map (·.value i)).sum = vs.length := by
  simpa using h.sum_filter_value hi fun _ => true

/-- The rows of a grouping are rows of any other one of the same views. -/
theorem subset (h : IsGrouping plan vs rows) (h' : IsGrouping plan vs rows') : rows ⊆ rows' := by
  intro row hrow
  have hkey : row.groupKey ∈ rows'.map Row.groupKey :=
    (h'.mem_iff _).mpr ((h.mem_iff _).mp (List.mem_map_of_mem hrow))
  obtain ⟨row', hrow', hsame⟩ := List.mem_map.mp hkey
  have hvalues : row'.values = row.values := by
    rw [h'.values row' hrow', hsame, ← h.values row hrow]
  have heq : row' = row := by
    obtain ⟨bucket, keys, values⟩ := row
    obtain ⟨bucket', keys', values'⟩ := row'
    cases hsame
    cases hvalues
    rfl
  exact heq ▸ hrow'

/-- **Two groupings of some views have the same rows.** -/
theorem perm (h : IsGrouping plan vs rows) (h' : IsGrouping plan vs rows') :
    rows.Perm rows' :=
  (List.perm_ext_iff_of_nodup h.nodup.of_map h'.nodup.of_map).mpr fun _ =>
    ⟨fun hrow => h.subset h' hrow, fun hrow => h'.subset h hrow⟩

end IsGrouping

/-- The groups of a plan do not depend on its order and its limit. -/
theorem insert_withOrder (order : RowOrder) (limit : Option Nat) (key : GroupKey) (r : ViewRecord)
    (gs : List Group) : Group.insert { plan with order := order, limit := limit } key r gs
      = Group.insert plan key r gs := by
  induction gs with
  | nil => rfl
  | cons g rest ih => rw [Group.insert, Group.insert, ih]; rfl

namespace Tables

theorem groups_withOrder (t : Tables) (order : RowOrder) (limit : Option Nat) (s : Selection) :
    t.groups { plan with order := order, limit := limit } s = t.groups plan s := by
  rw [groups, groups]
  congr 1
  funext gs v
  exact insert_withOrder order limit _ _ gs

theorem groups_withLimit (t : Tables) (limit : Option Nat) (s : Selection) :
    t.groups { plan with limit := limit } s = t.groups plan s :=
  t.groups_withOrder plan.order limit s

/-- **The rows of an answer are the groups of the selected views.** -/
theorem isGrouping_sorted (t : Tables) (s : Selection) :
    IsGrouping plan (t.matching s)
      (Row.sorted plan.order none ((t.groups plan s).map Group.toRow)) :=
  (accumulated_foldl (t.matching s)).isGrouping (List.mergeSort_perm _ _)

/-- An archive of three views of one blog on one day, two of them from nowhere in
particular. -/
def threeViews (day : Date) : Tables where
  countries := [⟨"fr", "France"⟩]
  users := [⟨"ada"⟩]
  blogs := [⟨1, "Notes", "ada", none⟩]
  views :=
    [⟨7, 1, some "ada", none, .startOf day⟩, ⟨8, 1, none, none, .endOf day⟩,
      ⟨9, 1, some "ada", some "fr", .startOf day⟩]
  viewIds := [9, 8, 7]

/-- **An answer is the grouping of the selected views**, its columns of numbers of
views sum to their number, and with a limit it is as much of that from the front. -/
theorem aggregate_isGrouping (t : Tables) {plan : Plan} {s : Selection}
    (hcheck : plan.predicate.check = .ok s) (hlimit : plan.limit = none) :
    ∃ rows, t.aggregate plan = .ok rows ∧
      IsGrouping plan (t.records.filter fun v => s.holds v.2) rows ∧
      (∀ i, plan.aggregates[i]? = some .count → ∃ ids, t.filterIds plan.predicate = .ok ids ∧
        (rows.map (·.value i)).sum = ids.length) ∧
      ∀ n, t.aggregate { plan with limit := some n } = .ok (rows.take n) := by
  refine ⟨Row.sorted plan.order none ((t.groups plan s).map Group.toRow), ?_,
    isGrouping_sorted t s, fun i hi => ?_, fun n => ?_⟩
  · rw [aggregate, hcheck, hlimit]
    rfl
  · refine ⟨(t.matching s).map fun r => r.1.id, ?_, ?_⟩
    · rw [filterIds, hcheck]
      rfl
    · rw [(isGrouping_sorted t s).sum_value hi, List.length_map]
  · rw [aggregate, hcheck]
    show Except.ok (Row.sorted plan.order (some n)
      ((t.groups { plan with limit := some n } s).map Group.toRow)) = _
    rw [groups_withLimit]
    rfl

/-- How many users and views each month and country has, those with the most views first. -/
def byMonthAndCountry : Plan :=
  ⟨.all, some .month, [.viewerCountryCode], [.distinct .viewerUser, .count], .byValue 1, none⟩

/-- The views of `threeViews` by month and country: the two from nowhere in particular, of
which one is anonymous, come before the one from France. -/
theorem aggregate_isGrouping_threeViews :
    ∃ rows, (threeViews ⟨2024, 2, 29, by decide, by decide, by decide, by decide⟩).aggregate
        byMonthAndCountry = .ok rows ∧
      rows = [⟨some ⟨2024, 2, 1, by decide, by decide, by decide, by decide⟩, [.null], [1, 2]⟩,
        ⟨some ⟨2024, 2, 1, by decide, by decide, by decide, by decide⟩, [.text "fr"], [1, 1]⟩] ∧
      IsGrouping byMonthAndCountry
        (threeViews ⟨2024, 2, 29, by decide, by decide, by decide, by decide⟩).records rows ∧
      (rows.map (·.value 1)).sum = 3 := by
  obtain ⟨rows, hrows, hgrouping, hsum, -⟩ := @aggregate_isGrouping
    (threeViews ⟨2024, 2, 29, by decide, by decide, by decide, by decide⟩) byMonthAndCountry
    .all rfl rfl
  obtain ⟨ids, hids, hlength⟩ := hsum 1 rfl
  have hthree : ids = [7, 8, 9] := Except.ok.inj (hids.symm.trans rfl)
  exact ⟨rows, hrows, Except.ok.inj (hrows.symm.trans (by cbv)), hgrouping,
    hlength.trans (by rw [hthree]; rfl)⟩

end Tables

end Readership

import Readership.Proofs.Archive.Answer
import Readership.Proofs.Archive.Integrity
import Readership.Proofs.Metric.Bounds

/-!
# Rankings end to end

A ranking counts the views that the filter selects, that lie within the bounds and that
have what is ranked (`Ranking.counted`): two conditions for the bounds and one for the
ranked field are added to whatever predicate the filter compiles to, and each of them has
to be true as well. The counted views are grouped, the groups stand in a line by falling
number of views and then by key (`Ranking.IsRanking`), and the answer is the places of
the first ten.

The line has every group in it, so what is left out of an answer has no more views than
anything that is in it, and comes behind it where it has as many.
-/

namespace Readership

open Outcome

/-- Whether a view has what is ranked. -/
def TopType.ranks : TopType → View → Bool
  | user, v => v.viewer.isSome
  | country, v => v.country.isSome
  | blog, _ => true

namespace Ranking

variable {top : TopType} {bounds : DateBounds} {t : Tables}

/-- The key that a view is ranked under: its viewer, its country, or the id and the title
of its blog. -/
def keyOf (top : TopType) (v : View × ViewRecord) : List FieldValue :=
  match top with
  | .user => [v.2 .viewerUser]
  | .country => [v.2 .viewerCountryCode]
  | .blog => [v.2 .blogId, v.2 .blogTitle]

/-- **The views that a ranking counts**: selected, within the bounds, and with what is
ranked. -/
def counted (top : TopType) (bounds : DateBounds) (s : Selection) (t : Tables) :
    List (View × ViewRecord) :=
  t.records.filter fun v => s.holds v.2 && bounds.contains v.1.time && top.ranks v.1

/-- The views under a key. -/
def viewsUnder (top : TopType) (vs : List (View × ViewRecord)) (key : List FieldValue) :
    List (View × ViewRecord) :=
  vs.filter fun v => keyOf top v = key

/-- The two fields whose different values stand beside the views: blogs and countries of a
user, users and blogs of a country, users and countries of a blog. -/
def besides : TopType → Field × Field
  | .user => (.blogId, .viewerCountryCode)
  | .country => (.viewerUser, .blogId)
  | .blog => (.viewerUser, .viewerCountryCode)

/-- **The place of a key**: its views between the two other counts. -/
def place (top : TopType) (vs : List (View × ViewRecord)) (key : List FieldValue) : MetricRow :=
  ⟨.count ((Aggregate.distinct (besides top).1).value (viewsUnder top vs key)),
    (viewsUnder top vs key).length,
    .count ((Aggregate.distinct (besides top).2).value (viewsUnder top vs key))⟩

/-- **Which of two keys comes first**: the one with more views, or with as many and the
smaller key. -/
def Precedes (top : TopType) (vs : List (View × ViewRecord)) (a b : List FieldValue) : Prop :=
  (viewsUnder top vs b).length < (viewsUnder top vs a).length ∨
    (viewsUnder top vs a).length = (viewsUnder top vs b).length ∧ Row.compareKeys a b = .lt

/-- **All keys of some views in a line**, each once, the first that comes first in front. -/
structure IsRanking (top : TopType) (vs : List (View × ViewRecord))
    (keys : List (List FieldValue)) : Prop where
  nodup : keys.Nodup
  mem_iff : ∀ key, key ∈ keys ↔ ∃ v ∈ vs, keyOf top v = key
  sorted : keys.Pairwise (Precedes top vs)

/-! ## The views that are counted -/

/-- The groups of the plan are those of the keys. -/
theorem groupOf_plan {p : Predicate} (v : View × ViewRecord) :
    (plan top bounds p).groupOf v = ⟨none, keyOf top v⟩ := by
  cases top <;> rfl

theorem distinctFields_eq (top : TopType) : top.distinctFields = besides top := by
  cases top <;> rfl

/-- **A view has what is ranked** where its record has a value in the ranked field. -/
theorem isNull_rankedField {v : View × ViewRecord} (h : v ∈ t.records) :
    (!(v.2 top.rankedField).isNull) = top.ranks v.1 := by
  obtain ⟨b, hb⟩ := Tables.exists_of_mem_records h
  rw [hb]
  cases top with
  | user => cases hviewer : v.1.viewer <;> simp [TopType.rankedField, Tables.recordOf,
      TopType.ranks, FieldValue.ofText?, hviewer]
  | country => cases hcountry : v.1.country <;> simp [TopType.rankedField, Tables.recordOf,
      TopType.ranks, FieldValue.ofText?, hcountry]
  | blog => rfl

/-- **The condition that a field is there** always passes the check. -/
theorem check_isPresent (f : Field) :
    (Condition.isPresent f.path).check = .ok ⟨f, .ne .null⟩ := by
  refine Condition.check_of_testOf f.parse_path ?_
  show (f.coerce .null).map Test.ne = _
  rw [Field.coerce_null]
  rfl

/-- It is fulfilled where the field is not null. -/
theorem passes_isPresent (f : Field) (r : ViewRecord) :
    (Condition.isPresent f.path).passes r = !(r f).isNull := by
  rw [Condition.passes, check_isPresent]
  show (r f != .null) = _
  cases r f <;> rfl

/-- **A restricted predicate passes the check** where the predicate does and the bounds can
be written down. -/
theorem exists_check_restrict_iff {p : Predicate} (hbounds : bounds.EndsIn Instant.Proper) :
    (∃ chosen, (restrict top bounds p).check = .ok chosen) ↔
      (∃ s, p.check = .ok s) ∧ bounds.EndsIn fun t => Calendar.HasFourDigits t.date.year := by
  rw [Predicate.check_eq_ok_iff, Predicate.check_eq_ok_iff,
    ← DateBounds.exists_check_conditions_iff hbounds, restrict,
    Predicate.conditions_withCondition, Predicate.conditions_foldl_withCondition]
  simp only [List.forall_mem_append, List.forall_mem_singleton]
  exact and_iff_left ⟨_, check_isPresent _⟩

/-- **A restricted predicate selects the views that are counted.** That it has passed the
check settles that the bounds could be written down. -/
theorem matching_of_check_restrict {p : Predicate} {s chosen : Selection}
    (hbounds : bounds.EndsIn Instant.Proper) (hp : p.check = .ok s)
    (hchosen : (restrict top bounds p).check = .ok chosen) :
    t.matching chosen = counted top bounds s t := by
  obtain ⟨-, hyears⟩ := (exists_check_restrict_iff hbounds).mp ⟨chosen, hchosen⟩
  refine List.filter_congr fun v hv => ?_
  obtain ⟨b, hb⟩ := Tables.exists_of_mem_records hv
  have htime : v.2 .viewedAt = .instant v.1.time := by rw [hb]; rfl
  rw [Predicate.holds_of_check v.2 hchosen, restrict, Predicate.truth_withCondition,
    Predicate.truth_foldl_withCondition, ← Predicate.holds_of_check v.2 hp,
    DateBounds.all_passes_conditions hbounds hyears htime, passes_isPresent,
    isNull_rankedField hv]

/-- **Without a filter and bounds** as many views are counted as have what is ranked. -/
theorem length_counted_all (h : t.Sound) :
    (counted top .always .all t).length = (t.views.filter top.ranks).length := by
  calc (counted top .always .all t).length
      = (t.records.filter fun v => top.ranks v.1).length := by
        refine congrArg List.length (List.filter_congr fun v _ => ?_)
        rw [Selection.holds_all, DateBounds.contains_always]
        rfl
    _ = ((t.records.map (·.1)).filter top.ranks).length := by
        rw [List.filter_map, List.length_map]
        rfl
    _ = (t.views.filter top.ranks).length := by rw [h.map_fst_records]

/-! ## The line of keys -/

variable {p : Predicate} {vs : List (View × ViewRecord)} {rows : List Row}

/-- The views of a group are those under its key, as a ranking has no buckets. -/
theorem viewsOf_plan (vs : List (View × ViewRecord)) (key : List FieldValue) :
    (plan top bounds p).viewsOf vs ⟨none, key⟩ = viewsUnder top vs key := by
  refine List.filter_congr fun v _ => decide_eq_decide.mpr ?_
  rw [groupOf_plan]
  simp

/-- **A row of a ranking** has no bucket, and the counts over the views under its key. -/
theorem eq_of_mem_grouping (h : IsGrouping (plan top bounds p) vs rows) {row : Row}
    (hrow : row ∈ rows) : row.bucket = none ∧
      row.values = [(Aggregate.distinct (besides top).1).value (viewsUnder top vs row.keys),
        (viewsUnder top vs row.keys).length,
        (Aggregate.distinct (besides top).2).value (viewsUnder top vs row.keys)] := by
  obtain ⟨v, -, hv⟩ := (h.mem_iff row.groupKey).mp (List.mem_map_of_mem hrow)
  have hbucket : row.bucket = none := by
    rw [groupOf_plan] at hv
    exact congrArg GroupKey.bucket hv.symm
  have hviews : (plan top bounds p).viewsOf vs row.groupKey = viewsUnder top vs row.keys := by
    rw [Row.groupKey, hbucket, viewsOf_plan]
  refine ⟨hbucket, ?_⟩
  rw [h.values row hrow, hviews, ← distinctFields_eq]
  rfl

/-- **The place of a row** is that of its key. -/
theorem map_shapeRow (h : IsGrouping (plan top bounds p) vs rows) :
    rows.map shapeRow = (rows.map Row.keys).map (place top vs) := by
  rw [List.map_map]
  refine List.map_congr_left fun row hrow => ?_
  obtain ⟨-, hvalues⟩ := eq_of_mem_grouping h hrow
  simp [shapeRow, place, Row.value, hvalues]

/-- There are as many views under a key as have it. -/
theorem length_viewsUnder (vs : List (View × ViewRecord)) (key : List FieldValue) :
    (viewsUnder top vs key).length = (vs.map (keyOf top)).count key := by
  rw [viewsUnder, ← List.countP_eq_length_filter, List.count, List.countP_map]
  exact List.countP_congr fun v _ => by simp

/-- No two keys come before each other. -/
theorem precedes_asymm {a b : List FieldValue} (hab : Precedes top vs a b) :
    ¬Precedes top vs b a := by
  rintro (hviews | ⟨hsame, hkeys⟩)
  · rcases hab with h | ⟨h, -⟩ <;> omega
  · rcases hab with h | ⟨-, h⟩
    · omega
    · exact Std.OrientedCmp.not_lt_of_lt h hkeys

/-- **Rows in order are keys in a line.** -/
theorem isRanking_of_isGrouping (h : IsGrouping (plan top bounds p) vs rows)
    (hsorted : rows.Pairwise fun a b => Row.compareBy (.byValue 1) a b = .lt) :
    IsRanking top vs (rows.map Row.keys) := by
  have hline : (rows.map Row.keys).Pairwise (Precedes top vs) := by
    refine List.pairwise_map.mpr (hsorted.imp_of_mem fun {a b} ha hb hab => ?_)
    obtain ⟨hbucketa, hvaluesa⟩ := eq_of_mem_grouping h ha
    obtain ⟨hbucketb, hvaluesb⟩ := eq_of_mem_grouping h hb
    have hgroups : Row.compareGroups a b = Row.compareKeys a.keys b.keys := by
      rw [Row.compareGroups, hbucketa, hbucketb]
      rfl
    have hviewsa : a.value 1 = (viewsUnder top vs a.keys).length := by rw [Row.value, hvaluesa]; rfl
    have hviewsb : b.value 1 = (viewsUnder top vs b.keys).length := by rw [Row.value, hvaluesb]; rfl
    rw [Row.compareBy, Ordering.then_eq_lt, Nat.compare_eq_lt, Nat.compare_eq_eq, hgroups, hviewsa,
      hviewsb] at hab
    exact hab.imp id (And.imp_left Eq.symm)
  have hnodup : (rows.map Row.keys).Nodup :=
    hline.imp (S := (· ≠ ·)) fun hab heq => precedes_asymm hab (heq ▸ hab)
  refine ⟨hnodup, fun key => ?_, hline⟩
  · have hkeys : key ∈ rows.map Row.keys ↔ (⟨none, key⟩ : GroupKey) ∈ rows.map Row.groupKey := by
      constructor
      · intro hmem
        obtain ⟨row, hrow, rfl⟩ := List.mem_map.mp hmem
        exact List.mem_map.mpr ⟨row, hrow, by rw [Row.groupKey, (eq_of_mem_grouping h hrow).1]⟩
      · intro hmem
        obtain ⟨row, hrow, heq⟩ := List.mem_map.mp hmem
        exact List.mem_map.mpr ⟨row, hrow, congrArg GroupKey.keys heq⟩
    rw [hkeys, h.mem_iff]
    refine exists_congr fun v => and_congr_right fun _ => ?_
    rw [groupOf_plan]
    simp

/-- **Views have one line of keys.** -/
theorem IsRanking.eq {keys keys' : List (List FieldValue)} (h : IsRanking top vs keys)
    (h' : IsRanking top vs keys') : keys = keys' := by
  have hperm : keys.Perm keys' := (List.perm_ext_iff_of_nodup h.nodup h'.nodup).mpr fun key =>
    (h.mem_iff key).trans (h'.mem_iff key).symm
  exact hperm.eq_of_pairwise (fun _ _ _ _ hab hba => absurd hba (precedes_asymm hab)) h.sorted
    h'.sorted

/-- **What is left out comes behind** what is in an answer. -/
theorem IsRanking.precedes_of_mem_drop {keys : List (List FieldValue)} (h : IsRanking top vs keys)
    {n : Nat} {a b : List FieldValue} (ha : a ∈ keys.take n) (hb : b ∈ keys.drop n) :
    Precedes top vs a b := by
  have hsplit := h.sorted
  rw [← List.take_append_drop n keys, List.pairwise_append] at hsplit
  exact hsplit.2.2 a ha b hb

/-- **Neither of the other counts exceeds the number of views.** -/
theorem place_counts_le (top : TopType) (vs : List (View × ViewRecord)) (key : List FieldValue) :
    ∃ x z, (place top vs key).x = .count x ∧ (place top vs key).z = .count z ∧
      x ≤ (place top vs key).y ∧ z ≤ (place top vs key).y :=
  ⟨_, _, rfl, rfl, Aggregate.value_distinct_le _ _, Aggregate.value_distinct_le _ _⟩

/-- **What an answered ranking is made from**: the first ten rows, in order, of the
grouping of the views that are counted. -/
theorem exists_of_topRanked {start stop : Option String} {document : Option Json}
    {out : List MetricRow}
    (h : (Store.ofTables t : Store Id).topRanked top start stop document = .ok out) :
    ∃ bounds s p rows, DateBounds.parse start stop = .ok bounds ∧
      Filter.select document = .ok s ∧
      IsGrouping (plan top bounds p) (counted top bounds s t) rows ∧
      (rows.Pairwise fun a b => Row.compareBy (.byValue 1) a b = .lt) ∧
      out = shape (rows.take places) := by
  unfold Store.topRanked at h
  split at h
  next => cases h
  next bounds hbounds =>
    obtain ⟨c, s, chosen, hc, hs, hchosen, rfl⟩ := Metric.exists_of_run_ofTables h
    have hgrouping := t.isGrouping_rows (plan top bounds c.predicate) chosen
    rw [matching_of_check_restrict (DateBounds.proper_of_parse hbounds) hs hchosen] at hgrouping
    exact ⟨bounds, s, c.predicate, _, hbounds, bind_eq_ok.mpr ⟨c, hc, hs⟩, hgrouping,
      t.pairwise_rows (plan top bounds c.predicate) chosen, rfl⟩

/-- **A ranking is answered** from the tables where its filter selects something and its
bounds can be written down. -/
theorem exists_topRanked_iff {start stop : Option String} {document : Option Json}
    (hbounds : DateBounds.parse start stop = .ok bounds) :
    (∃ out, (Store.ofTables t : Store Id).topRanked top start stop document = .ok out) ↔
      (∃ s, Filter.select document = .ok s) ∧
        bounds.EndsIn fun t => Calendar.HasFourDigits t.date.year := by
  have hproper := DateBounds.proper_of_parse hbounds
  have hrun : (Store.ofTables t : Store Id).topRanked top start stop document
      = (Metric.ranking top bounds).run (Store.ofTables t : Store Id) document := by
    rw [Store.topRanked, hbounds]
  rw [hrun]
  constructor
  · rintro ⟨out, hout⟩
    obtain ⟨c, s, chosen, hc, hs, hchosen, -⟩ := Metric.exists_of_run_ofTables hout
    obtain ⟨-, hyears⟩ := (exists_check_restrict_iff hproper).mp ⟨chosen, hchosen⟩
    exact ⟨⟨s, bind_eq_ok.mpr ⟨c, hc, hs⟩⟩, hyears⟩
  · rintro ⟨⟨s, hselect⟩, hyears⟩
    obtain ⟨c, hc, hs⟩ := bind_eq_ok.mp hselect
    obtain ⟨chosen, hchosen⟩ := (exists_check_restrict_iff hproper).mpr ⟨⟨s, hs⟩, hyears⟩
    exact Metric.exists_run_ofTables hc hs hchosen

end Ranking

/-- **A ranking end to end.** If a store in memory answers it, then the bounds and the filter
have a meaning; the counted views have a line of keys, and the answer is the places of the
first ten of them. What is left out has no more views than what is in the answer, and
where it has as many the larger key; and a short answer without a filter and bounds counts
every view that has what is ranked. -/
theorem Store.topRanked_isRanking (entries : List Entry) (top : TopType)
    (start stop : Option String) (document : Option Json) {out : List MetricRow}
    (h : (ofTables (Tables.empty.run entries) : Store Id).topRanked top start stop document
      = .ok out) :
    ∃ bounds s vs keys, DateBounds.parse start stop = .ok bounds ∧
      Filter.select document = .ok s ∧
      vs = Ranking.counted top bounds s (Tables.empty.run entries) ∧
      Ranking.IsRanking top vs keys ∧
      out = (keys.take 10).map (Ranking.place top vs) ∧
      out.length = min 10 keys.length ∧
      (∀ row ∈ out, ∃ x z, row.x = .count x ∧ row.z = .count z ∧ x ≤ row.y ∧ z ≤ row.y) ∧
      (∀ kept ∈ keys.take 10, ∀ left ∈ keys.drop 10,
        (Ranking.place top vs left).y ≤ (Ranking.place top vs kept).y ∧
        ((Ranking.place top vs left).y = (Ranking.place top vs kept).y →
          Row.compareKeys kept left = .lt)) ∧
      (document = none ∨ document = some .null → bounds = .always → keys.length ≤ 10 →
        (out.map (·.y)).sum = ((Tables.empty.run entries).views.filter top.ranks).length) := by
  obtain ⟨bounds, s, p, rows, hbounds, hs, hgrouping, hsorted, rfl⟩ :=
    Ranking.exists_of_topRanked h
  have hranking := Ranking.isRanking_of_isGrouping hgrouping hsorted
  have hout : Ranking.shape (rows.take 10) = ((rows.map Row.keys).take 10).map
      (Ranking.place top (Ranking.counted top bounds s (Tables.empty.run entries))) := by
    rw [Ranking.shape, List.map_take, Ranking.map_shapeRow hgrouping, List.map_take]
  refine ⟨bounds, s, _, rows.map Row.keys, hbounds, hs, rfl, hranking, hout, ?_, ?_, ?_, ?_⟩
  · rw [Ranking.places, hout, List.length_map, List.length_take]
  · intro row hrow
    rw [Ranking.places, hout] at hrow
    obtain ⟨key, -, rfl⟩ := List.mem_map.mp hrow
    exact Ranking.place_counts_le top _ key
  · intro kept hkept left hleft
    rcases hranking.precedes_of_mem_drop hkept hleft with hless | ⟨hequal, hkeys⟩
    · exact ⟨Nat.le_of_lt hless, fun heq => absurd heq (Nat.ne_of_lt hless)⟩
    · exact ⟨Nat.le_of_eq hequal.symm, fun _ => hkeys⟩
  · intro hdocument hall hshort
    have hs' : s = .all := by
      rcases hdocument with rfl | rfl <;> exact (Except.ok.inj hs).symm
    have hys : (Ranking.shape rows).map (·.y) = rows.map (·.value 1) := by
      rw [Ranking.shape, List.map_map]
      rfl
    have hfew : rows.length ≤ 10 := by rwa [List.length_map] at hshort
    rw [Ranking.places, List.take_of_length_le hfew, hys, hgrouping.sum_value rfl, hs', hall,
      Ranking.length_counted_all (Tables.sound_empty.run entries)]

/-- An archive of two users, one blog and five views, of which one is anonymous and one
is early in the month. -/
def fiveViews (day : Date) : List Entry :=
  [.user ⟨"ada"⟩, .user ⟨"bob"⟩, .blog ⟨1, "Notes", "ada", none⟩,
    .view ⟨7, 1, some "bob", none, .startOf day.monthStart⟩, .view ⟨8, 1, none, none, .endOf day⟩,
    .view ⟨9, 1, some "ada", none, .endOf day⟩, .view ⟨10, 1, some "bob", none, .endOf day⟩,
    .view ⟨11, 1, some "bob", none, .endOf day⟩]

/-- A document with two alternatives at its root. -/
def aboutBlogOrAda : Json :=
  .obj [("or", .arr [.obj [("field", .str "blog"), ("eq", .ofInt 1)],
    .obj [("field", .str "viewer_user"), ("eq", .str "ada")]])]

/-- Both users of `fiveViews` have a place, Bob with his two views before Ada: the anonymous
view and the early one are not counted, although the filter lets them through. -/
theorem Store.topRanked_isRanking_fiveViews :
    ∃ out vs, (ofTables (Tables.empty.run
        (fiveViews ⟨2024, 2, 29, by decide, by decide, by decide, by decide⟩)) : Store Id).topRanked
          .user (some "2024-02-02") none (some aboutBlogOrAda) = .ok out ∧
      vs.map (·.1.id) = [9, 10, 11] ∧
      Ranking.IsRanking .user vs [[.text "bob"], [.text "ada"]] ∧
      out = [⟨.count 1, 2, .count 0⟩, ⟨.count 1, 1, .count 0⟩] := by
  have hanswered : ∃ out, (ofTables (Tables.empty.run
      (fiveViews ⟨2024, 2, 29, by decide, by decide, by decide, by decide⟩)) : Store Id).topRanked
        .user (some "2024-02-02") none (some aboutBlogOrAda) = .ok out := ⟨_, rfl⟩
  obtain ⟨out, hout⟩ := hanswered
  obtain ⟨bounds, s, vs, keys, hbounds, hs, hvs, hranking, hplaces, -⟩ :=
    topRanked_isRanking (fiveViews ⟨2024, 2, 29, by decide, by decide, by decide, by decide⟩)
      .user (some "2024-02-02") none (some aboutBlogOrAda) hout
  have hs' : s = .or [.criterion ⟨.blogId, .eq (.int 1)⟩,
      .criterion ⟨.viewerUser, .eq (.text "ada")⟩] := Except.ok.inj (hs.symm.trans rfl)
  have hbounds' : bounds = ⟨some (.startOf ⟨2024, 2, 2, by decide, by decide, by decide,
      by decide⟩), none⟩ := Except.ok.inj (hbounds.symm.trans rfl)
  have hkeys : vs.map (Ranking.keyOf .user) = [[.text "ada"], [.text "bob"], [.text "bob"]] := by
    rw [hvs, hs', hbounds']
    rfl
  have hline : Ranking.IsRanking .user vs [[.text "bob"], [.text "ada"]] := by
    refine ⟨by decide, fun key => ?_, List.pairwise_pair.mpr (.inl ?_)⟩
    · rw [← List.mem_map, hkeys]
      simp [or_comm]
    · rw [Ranking.length_viewsUnder, Ranking.length_viewsUnder, hkeys]
      decide
  obtain rfl := hranking.eq hline
  refine ⟨out, vs, hout, ?_, hline, hplaces.trans ?_⟩
  · rw [hvs, hs', hbounds']
    rfl
  · rw [hvs, hs', hbounds']
    rfl

end Readership

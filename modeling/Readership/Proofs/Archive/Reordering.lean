import Readership.Proofs.Archive.Answer
import Readership.Proofs.Archive.Loading

/-!
# Datasets in another order

The entries of a dataset stand in lists, and loading keeps their order. No answer to a
plan shows it.

A dataset is well formed whatever the order of its lists. What is looked up by a key is
found wherever it stands, as keys are unique, so the records of a reordered dataset are
the same in another order (`Dataset.Reordered.records_perm`). From there on the order gets
lost: a grouping says the same of views in any order (`IsGrouping.of_perm`), two groupings
of some views have the same rows (`IsGrouping.perm`), and rows that strictly precede one
another stand in one way only (`Tables.rows_eq_of_perm`). A limit comes after all this and
cuts off the same rows, also between groups with as many views.

Only the ids of the selected views are given in the order of loading.
-/

namespace Readership

/-! ## Unique keys -/

/-- **An entry with a key of its own** is what is found under the key. -/
theorem find?_eq_some_iff_mem {α κ : Type} [DecidableEq κ] {key : α → κ} {entries : List α}
    (hkeys : (entries.map key).Nodup) {k : κ} {a : α} :
    entries.find? (key · == k) = some a ↔ a ∈ entries ∧ key a = k := by
  constructor
  · intro ha
    exact ⟨List.mem_of_find?_eq_some ha, by simpa using List.find?_some ha⟩
  · rintro ⟨ha, rfl⟩
    have hfound : (entries.find? (key · == key a)).isSome = true :=
      Tables.isSome_find?_iff.mpr (List.mem_map_of_mem ha)
    obtain ⟨b, hb⟩ := Option.isSome_iff_exists.mp hfound
    have hkey : key b = key a := by simpa using List.find?_some hb
    rw [hb, List.inj_on_of_nodup_map hkeys (List.mem_of_find?_eq_some hb) ha hkey]

/-- **It is found wherever it stands.** -/
theorem find?_eq_of_perm {α κ : Type} [DecidableEq κ] {key : α → κ} {entries entries' : List α}
    (h : entries.Perm entries') (hkeys : (entries.map key).Nodup) (k : κ) :
    entries.find? (key · == k) = entries'.find? (key · == k) := by
  refine Option.ext fun a => ?_
  rw [find?_eq_some_iff_mem hkeys, find?_eq_some_iff_mem ((h.map key).nodup_iff.mp hkeys),
    h.mem_iff]

/-! ## Groupings of views in another order -/

variable {plan : Plan} {vs vs' : List (View × ViewRecord)} {rows rows' : List Row}

/-- A count over views does not depend on their order. -/
theorem Aggregate.value_of_perm (h : vs.Perm vs') (a : Aggregate) : a.value vs = a.value vs' := by
  cases a with
  | count => exact h.length_eq
  | distinct f =>
    have hvalues := List.toFinset_eq_of_perm _ _ (h.map fun v => v.2 f)
    rw [Aggregate.value, hvalues]
    rfl

namespace IsGrouping

/-- **A grouping says the same of views in any order.** -/
theorem of_perm (h : IsGrouping plan vs rows) (hvs : vs.Perm vs') : IsGrouping plan vs' rows where
  nodup := h.nodup
  mem_iff key := by
    rw [h.mem_iff]
    exact exists_congr fun v => and_congr_left fun _ => hvs.mem_iff
  values row hrow := by
    rw [h.values row hrow]
    exact List.map_congr_left fun a _ => Aggregate.value_of_perm (hvs.filter _) a

end IsGrouping

namespace Tables

variable {t t' : Tables} {s : Selection}

/-- **Rows in order do not depend on the order of the views.** -/
theorem rows_eq_of_perm (h : (t.matching s).Perm (t'.matching s)) (plan : Plan) :
    t.rows plan s = t'.rows plan s :=
  Row.eq_of_perm_of_pairwise
    (((t.isGrouping_rows plan s).of_perm h).perm (t'.isGrouping_rows plan s))
    (t.pairwise_rows plan s) (t'.pairwise_rows plan s)

end Tables

namespace Dataset

/-- **The same entries in another order**, list by list. -/
structure Reordered (d d' : Dataset) : Prop where
  countries : d.countries.Perm d'.countries
  users : d.users.Perm d'.users
  blogs : d.blogs.Perm d'.blogs
  views : d.views.Perm d'.views

variable {d d' : Dataset}

namespace Reordered

/-- **A dataset is well formed in any order.** -/
theorem wellFormed (h : d.Reordered d') (hd : d.WellFormed) : d'.WellFormed where
  codes := (h.countries.map _).nodup_iff.mp hd.codes
  names := (h.countries.map _).nodup_iff.mp hd.names
  userIds := (h.users.map _).nodup_iff.mp hd.userIds
  blogIds := (h.blogs.map _).nodup_iff.mp hd.blogIds
  viewIds := (h.views.map _).nodup_iff.mp hd.viewIds
  blogOwner b hb := (h.users.map _).mem_iff.mp (hd.blogOwner b (h.blogs.mem_iff.mpr hb))
  blogCountry b hb code hcode :=
    (h.countries.map _).mem_iff.mp (hd.blogCountry b (h.blogs.mem_iff.mpr hb) code hcode)
  viewBlog v hv := (h.blogs.map _).mem_iff.mp (hd.viewBlog v (h.views.mem_iff.mpr hv))
  viewer v hv user huser :=
    (h.users.map _).mem_iff.mp (hd.viewer v (h.views.mem_iff.mpr hv) user huser)
  viewerCountry v hv code hcode :=
    (h.countries.map _).mem_iff.mp (hd.viewerCountry v (h.views.mem_iff.mpr hv) code hcode)

/-- A view has the same record in any order. -/
theorem record?_eq (h : d.Reordered d') (hd : d.WellFormed) :
    d.tables.record? = d'.tables.record? := by
  have hcountry : d.tables.country? = d'.tables.country? :=
    funext (find?_eq_of_perm h.countries hd.codes)
  have hblog : d.tables.blog? = d'.tables.blog? := funext (find?_eq_of_perm h.blogs hd.blogIds)
  funext v
  rw [Tables.record?, Tables.record?, hblog]
  congr 1
  funext b
  congr 1
  funext f
  cases f <;> simp only [Tables.recordOf, hcountry]

/-- **The records are the same in another order.** -/
theorem records_perm (h : d.Reordered d') (hd : d.WellFormed) :
    d.tables.records.Perm d'.tables.records := by
  rw [Tables.records, Tables.records, h.record?_eq hd]
  exact h.views.filterMap _

/-- **So are the selected views.** -/
theorem matching_perm (h : d.Reordered d') (hd : d.WellFormed) (s : Selection) :
    (d.tables.matching s).Perm (d'.tables.matching s) :=
  (h.records_perm hd).filter _

end Reordered

open Outcome

/-- **No answer shows the order of a dataset.** If a dataset is accepted, so is every
reordered one. To every plan both give one answer, be it the same rows in the same order or
the same fault, and for every predicate they find the same views, be it in another order. -/
theorem answers_of_reordered (h : d.Reordered d') {t : Tables} (ht : Tables.ofDataset d = .ok t) :
    ∃ t', Tables.ofDataset d' = .ok t' ∧
      (∀ plan, t.aggregate plan = t'.aggregate plan) ∧
      ∀ p, Agree List.Perm (t.filterIds p) (t'.filterIds p) := by
  obtain ⟨hd, rfl⟩ := ofDataset_eq_ok_iff.mp ht
  refine ⟨d'.tables, ofDataset_eq_ok_iff.mpr ⟨h.wellFormed hd, rfl⟩, fun plan => ?_, fun p => ?_⟩
  · rw [Tables.aggregate, Tables.aggregate]
    refine congrArg plan.predicate.check.map (funext fun s => ?_)
    show Row.limited plan.limit (d.tables.rows plan s)
      = Row.limited plan.limit (d'.tables.rows plan s)
    rw [Tables.rows_eq_of_perm (h.matching_perm hd s)]
  · exact Agree.of_map fun s => (h.matching_perm hd s).map _

/-- Two views of one blog, the first of them by the user who comes second. -/
def tiedViews (day : Date) : Dataset where
  countries := []
  users := [⟨"ada"⟩, ⟨"bob"⟩]
  blogs := [⟨1, "Notes", "ada", none⟩]
  views := [⟨7, 1, some "bob", none, .startOf day⟩, ⟨8, 1, some "ada", none, .endOf day⟩]

/-- The views of `tiedViews` in both orders: the user with most views is the same one,
although another has as many. -/
theorem answers_of_reordered_tiedViews :
    ∃ t', Tables.ofDataset ⟨[], [⟨"bob"⟩, ⟨"ada"⟩], [⟨1, "Notes", "ada", none⟩],
        (tiedViews ⟨2024, 2, 29, by decide, by decide, by decide, by decide⟩).views.reverse⟩
        = .ok t' ∧
      t'.aggregate ⟨.all, none, [.viewerUser], [.count], .byValue 0, some 1⟩
        = .ok [⟨none, [.text "ada"], [1]⟩] ∧
      t'.filterIds .all = .ok [8, 7] := by
  have hreordered : (tiedViews ⟨2024, 2, 29, by decide, by decide, by decide, by decide⟩).Reordered
      ⟨[], [⟨"bob"⟩, ⟨"ada"⟩], [⟨1, "Notes", "ada", none⟩],
        (tiedViews ⟨2024, 2, 29, by decide, by decide, by decide, by decide⟩).views.reverse⟩ :=
    ⟨.refl _, .swap _ _ _, .refl _, (List.reverse_perm _).symm⟩
  obtain ⟨t', ht', haggregate, -⟩ := answers_of_reordered hreordered rfl
  refine ⟨t', ht', (haggregate _).symm.trans (by cbv), ?_⟩
  cases ht'
  rfl

end Dataset

end Readership

import Readership.Proofs.Archive.Integrity
import Readership.Proofs.Outcome

/-!
# Loading a dataset

A dataset is well formed if keys are unique in each of its lists and every
reference leads somewhere (`Dataset.WellFormed`). Nothing in that depends on an
order, whereas loading enters one entry after the other and looks at what it has
entered so far. The two agree because of the order of the lists: when a blog is
entered all countries and users are there, and when a view is entered so are all
blogs (`Dataset.rank_le_of_split`). So an entry is welcome among those before it
exactly if the dataset has nothing to blame it for (`Dataset.WellFormed.welcomes`), and a
key that occurs twice is blamed on its second entry.

A dataset that is not well formed is refused with the fault of the first entry that
can be blamed, and a well-formed one is held as it is.
-/

namespace Readership

/-- **Every split of a list** begins with its first item or comes after it. -/
theorem forall_split_cons {α : Type} {a : α} {rest : List α} {P : List α → α → Prop} :
    (∀ before x after, a :: rest = before ++ x :: after → P before x)
      ↔ P [] a ∧ ∀ before x after, rest = before ++ x :: after → P (a :: before) x := by
  constructor
  · intro h
    refine ⟨h [] a rest rfl, fun before x after hrest => ?_⟩
    exact h (a :: before) x after (by rw [hrest]; rfl)
  · rintro ⟨hfirst, hrest⟩ before x after hsplit
    cases before with
    | nil =>
      cases hsplit
      exact hfirst
    | cons b before =>
      obtain ⟨rfl, htail⟩ := List.cons.inj hsplit
      exact hrest before x after htail

/-- A key that is unique does not occur before its place. -/
theorem not_mem_map_of_nodup {α κ : Type} {key : α → κ} {before after : List α} {a : α}
    (h : ((before ++ a :: after).map key).Nodup) : key a ∉ before.map key := by
  rw [List.map_append, List.map_cons] at h
  exact fun hmem => List.disjoint_of_nodup_append h hmem List.mem_cons_self

namespace Entry

/-- The country that an entry is. -/
def country? : Entry → Option Country
  | country c => some c
  | _ => none

/-- The user that an entry is. -/
def user? : Entry → Option User
  | user u => some u
  | _ => none

/-- The blog that an entry is. -/
def blog? : Entry → Option Blog
  | blog b => some b
  | _ => none

/-- The place of the list that an entry belongs to. -/
def rank : Entry → Nat
  | country _ => 0
  | user _ => 1
  | blog _ => 2
  | view _ => 3

end Entry

namespace Tables

variable {t t' : Tables} {fault : ReferenceFault}

/-! ## Entries one after the other -/

/-- **Entries one after the other** are all accepted exactly if each is welcome among
those before it, and then all are appended. -/
theorem run_forM_insert_eq_ok_iff {entries : List Entry} :
    (entries.forM Entry.insert).run t = .ok () t'
      ↔ (∀ before e after, entries = before ++ e :: after →
          (before.foldl append t).Welcomes e) ∧ t' = entries.foldl append t := by
  induction entries generalizing t with
  | nil => simp [eq_comm]
  | cons e rest ih =>
    rw [List.forM_eq_forM, List.forM_cons, Outcome.run_bind_eq_ok, forall_split_cons, and_assoc]
    constructor
    · rintro ⟨_, t₁, hfirst, hrest⟩
      obtain ⟨hwelcome, rfl⟩ := run_insert_eq_ok_iff.mp hfirst
      exact ⟨hwelcome, ih.mp hrest⟩
    · rintro ⟨hwelcome, hrest⟩
      exact ⟨(), t.append e, run_insert_eq_ok_iff.mpr ⟨hwelcome, rfl⟩, ih.mpr hrest⟩

/-- A run of calls with such entries appends all of them. -/
theorem run_eq_of_welcomes {entries : List Entry}
    (h : ∀ before e after, entries = before ++ e :: after → (before.foldl append t).Welcomes e) :
    t.run entries = entries.foldl append t := by
  induction entries generalizing t with
  | nil => rfl
  | cons e rest ih =>
    obtain ⟨hwelcome, hrest⟩ := forall_split_cons.mp h
    rcases call_cases t e with ⟨-, heq⟩ | ⟨hnot, -⟩
    · rw [run, heq, ih hrest, List.foldl_cons]
    · exact absurd hwelcome hnot

/-- **The first entry that is refused** decides the fault. -/
theorem exists_of_run_forM_insert_eq_error {entries : List Entry}
    (h : (entries.forM Entry.insert).run t = .error fault t') :
    ∃ before e after, entries = before ++ e :: after ∧
      (∀ first e' others, before = first ++ e' :: others → (first.foldl append t).Welcomes e') ∧
      e.insert.run (before.foldl append t) = .error fault t' := by
  induction entries generalizing t with
  | nil => cases h
  | cons e rest ih =>
    rw [List.forM_eq_forM, List.forM_cons, Outcome.run_bind_eq_error] at h
    rcases h with hfirst | ⟨_, t₁, hfirst, hrest⟩
    · exact ⟨[], e, rest, rfl, by simp, hfirst⟩
    · obtain ⟨hwelcome, rfl⟩ := run_insert_eq_ok_iff.mp hfirst
      obtain ⟨before, x, after, rfl, hbefore, hx⟩ := ih hrest
      exact ⟨e :: before, x, after, rfl, forall_split_cons.mpr ⟨hwelcome, hbefore⟩, hx⟩

/-- **The tables after some entries** hold those of each kind, in order. -/
theorem foldl_append_eq (t : Tables) (entries : List Entry) :
    entries.foldl append t =
      { countries := t.countries ++ entries.filterMap Entry.country?
        users := t.users ++ entries.filterMap Entry.user?
        blogs := t.blogs ++ entries.filterMap Entry.blog?
        views := t.views ++ entries.filterMap Entry.view?
        viewIds := ((entries.filterMap Entry.view?).map (·.id)).reverse ++ t.viewIds } := by
  induction entries generalizing t with
  | nil => simp
  | cons e rest ih =>
    rw [List.foldl_cons, ih]
    cases e <;>
      simp [append, Entry.country?, Entry.user?, Entry.blog?, Entry.view?, List.filterMap_cons]

/-- The codes after some entries. -/
theorem codes_foldl_append (entries : List Entry) :
    (entries.foldl append empty).codes = (entries.filterMap Entry.country?).map (·.code) := by
  rw [foldl_append_eq]
  rfl

/-- The names after some entries. -/
theorem names_foldl_append (entries : List Entry) :
    (entries.foldl append empty).names = (entries.filterMap Entry.country?).map (·.name) := by
  rw [foldl_append_eq]
  rfl

/-- The ids of users after some entries. -/
theorem userIds_foldl_append (entries : List Entry) :
    (entries.foldl append empty).userIds = (entries.filterMap Entry.user?).map (·.id) := by
  rw [foldl_append_eq]
  rfl

/-- The ids of blogs after some entries. -/
theorem blogIds_foldl_append (entries : List Entry) :
    (entries.foldl append empty).blogIds = (entries.filterMap Entry.blog?).map (·.id) := by
  rw [foldl_append_eq]
  rfl

/-- The ids of views after some entries. -/
theorem mem_viewIds_foldl_append {entries : List Entry} {id : Int} :
    id ∈ (entries.foldl append empty).viewIds
      ↔ id ∈ (entries.filterMap Entry.view?).map (·.id) := by
  rw [foldl_append_eq]
  simp [empty]

end Tables

namespace Dataset

/-- **The entries of a dataset** in the order of loading. -/
def entries (d : Dataset) : List Entry :=
  d.countries.map .country ++ (d.users.map .user ++ (d.blogs.map .blog ++ d.views.map .view))

/-- **A well-formed dataset**: keys are unique, and what an entry refers to is in the
dataset. -/
structure WellFormed (d : Dataset) : Prop where
  codes : (d.countries.map (·.code)).Nodup
  names : (d.countries.map (·.name)).Nodup
  userIds : (d.users.map (·.id)).Nodup
  blogIds : (d.blogs.map (·.id)).Nodup
  viewIds : (d.views.map (·.id)).Nodup
  blogOwner : ∀ b ∈ d.blogs, b.owner ∈ d.users.map (·.id)
  blogCountry : ∀ b ∈ d.blogs, ∀ code ∈ b.country, code ∈ d.countries.map (·.code)
  viewBlog : ∀ v ∈ d.views, v.blog ∈ d.blogs.map (·.id)
  viewer : ∀ v ∈ d.views, ∀ user ∈ v.viewer, user ∈ d.users.map (·.id)
  viewerCountry : ∀ v ∈ d.views, ∀ code ∈ v.country, code ∈ d.countries.map (·.code)

/-- **What an entry of a dataset is blamed for**: a key that an entry before it has, or
a reference to what is nowhere in the dataset. The fault names the entry by its key. -/
inductive Blames (d : Dataset) (before : List Entry) : Entry → ReferenceFault → Prop where
  | countryCodeTaken {c : Country} :
    c.code ∈ (before.filterMap Entry.country?).map (·.code) →
      Blames d before (.country c) (.countryCodeTaken c.code)
  | countryNameTaken {c : Country} :
    c.name ∈ (before.filterMap Entry.country?).map (·.name) →
      Blames d before (.country c) (.countryNameTaken c.name)
  | userTaken {u : User} :
    u.id ∈ (before.filterMap Entry.user?).map (·.id) →
      Blames d before (.user u) (.userTaken u.id)
  | blogTaken {b : Blog} :
    b.id ∈ (before.filterMap Entry.blog?).map (·.id) →
      Blames d before (.blog b) (.blogTaken b.id)
  | ownerMissing {b : Blog} :
    b.owner ∉ d.users.map (·.id) →
      Blames d before (.blog b) (.ownerMissing b.id b.owner)
  | blogCountryMissing {b : Blog} {code : String} :
    b.country = some code → code ∉ d.countries.map (·.code) →
      Blames d before (.blog b) (.blogCountryMissing b.id code)
  | viewTaken {v : View} :
    v.id ∈ (before.filterMap Entry.view?).map (·.id) →
      Blames d before (.view v) (.viewTaken v.id)
  | blogMissing {v : View} :
    v.blog ∉ d.blogs.map (·.id) →
      Blames d before (.view v) (.blogMissing v.id v.blog)
  | viewerMissing {v : View} {user : String} :
    v.viewer = some user → user ∉ d.users.map (·.id) →
      Blames d before (.view v) (.viewerMissing v.id user)
  | viewerCountryMissing {v : View} {code : String} :
    v.country = some code → code ∉ d.countries.map (·.code) →
      Blames d before (.view v) (.viewerCountryMissing v.id code)

/-- **The first entry that can be blamed**, and for what. -/
def IsFirstBlamed (d : Dataset) (e : Entry) (fault : ReferenceFault) : Prop :=
  ∃ before after, d.entries = before ++ e :: after ∧ d.Blames before e fault ∧
    ∀ first e' others, before = first ++ e' :: others → ∀ fault', ¬ d.Blames first e' fault'

variable {d : Dataset}

theorem filterMap_country?_entries (d : Dataset) :
    d.entries.filterMap Entry.country? = d.countries := by
  simp [entries, List.filterMap_append, List.filterMap_map, Function.comp_def, Entry.country?]

theorem filterMap_user?_entries (d : Dataset) :
    d.entries.filterMap Entry.user? = d.users := by
  simp [entries, List.filterMap_append, List.filterMap_map, Function.comp_def, Entry.user?]

theorem filterMap_blog?_entries (d : Dataset) :
    d.entries.filterMap Entry.blog? = d.blogs := by
  simp [entries, List.filterMap_append, List.filterMap_map, Function.comp_def, Entry.blog?]

theorem filterMap_view?_entries (d : Dataset) :
    d.entries.filterMap Entry.view? = d.views := by
  simp [entries, List.filterMap_append, List.filterMap_map, Function.comp_def, Entry.view?]

/-- **Entries of earlier lists come first**: none of them is left behind an entry. -/
theorem rank_le_of_split {before after : List Entry} {e : Entry}
    (h : d.entries = before ++ e :: after) : ∀ e' ∈ after, e.rank ≤ e'.rank := by
  have hsame {α : Type} (xs : List α) : xs.Pairwise fun _ _ => True :=
    List.pairwise_of_forall fun _ _ => trivial
  have hsorted : d.entries.Pairwise fun a b => a.rank ≤ b.rank := by
    simp [entries, List.pairwise_append, List.pairwise_map, Entry.rank, or_imp, forall_and, hsame]
  rw [h, List.pairwise_append, List.pairwise_cons] at hsorted
  exact hsorted.2.1.1

/-- A list of the dataset is split where its entry stands. -/
theorem filterMap_split {α : Type} {kind? : Entry → Option α} {before after : List Entry}
    {e : Entry} {a : α} (he : kind? e = some a) (h : d.entries = before ++ e :: after) :
    d.entries.filterMap kind? = before.filterMap kind? ++ a :: after.filterMap kind? := by
  rw [h, List.filterMap_append, List.filterMap_cons_some he]

/-- **A list that comes before an entry** is there when the entry is reached. -/
theorem filterMap_before {α : Type} {kind? : Entry → Option α} {r : Nat}
    (hkind : ∀ e a, kind? e = some a → e.rank = r) {before after : List Entry} {e : Entry}
    (h : d.entries = before ++ e :: after) (hr : r < e.rank) :
    before.filterMap kind? = d.entries.filterMap kind? := by
  have hnone : ∀ e', e.rank ≤ e'.rank → kind? e' = none := by
    intro e' hle
    refine Option.eq_none_iff_forall_ne_some.mpr fun a ha => ?_
    have := hkind e' a ha
    omega
  have hafter : after.filterMap kind? = [] :=
    List.filterMap_eq_nil_iff.mpr fun e' he' => hnone e' (rank_le_of_split h e' he')
  rw [h, List.filterMap_append, List.filterMap_cons_none (hnone e (Nat.le_refl _)), hafter,
    List.append_nil]

section Split

variable {before after : List Entry} {e : Entry} (h : d.entries = before ++ e :: after)
include h

/-- When a blog is entered, all countries are there. -/
theorem codes_of_split (hrank : 2 ≤ e.rank) :
    (before.foldl Tables.append .empty).codes = d.countries.map (·.code) := by
  have hkind : ∀ (e : Entry) a, e.country? = some a → e.rank = 0 := by
    rintro (_ | _ | _ | _) a ha <;> first | rfl | cases ha
  rw [Tables.codes_foldl_append, filterMap_before hkind h (by omega), filterMap_country?_entries]

/-- When a blog is entered, all users are there. -/
theorem userIds_of_split (hrank : 2 ≤ e.rank) :
    (before.foldl Tables.append .empty).userIds = d.users.map (·.id) := by
  have hkind : ∀ (e : Entry) a, e.user? = some a → e.rank = 1 := by
    rintro (_ | _ | _ | _) a ha <;> first | rfl | cases ha
  rw [Tables.userIds_foldl_append, filterMap_before hkind h (by omega), filterMap_user?_entries]

/-- When a view is entered, all blogs are there. -/
theorem blogIds_of_split (hrank : 3 ≤ e.rank) :
    (before.foldl Tables.append .empty).blogIds = d.blogs.map (·.id) := by
  have hkind : ∀ (e : Entry) a, e.blog? = some a → e.rank = 2 := by
    rintro (_ | _ | _ | _) a ha <;> first | rfl | cases ha
  rw [Tables.blogIds_foldl_append, filterMap_before hkind h (by omega), filterMap_blog?_entries]

/-- **What is welcome cannot be blamed.** -/
theorem not_blames_of_welcomes {fault : ReferenceFault}
    (hwelcome : (before.foldl Tables.append .empty).Welcomes e) : ¬ d.Blames before e fault := by
  have hearly : 2 ≤ 3 := by decide
  intro hblames
  cases hblames with
  | countryCodeTaken hmem => exact hwelcome.1 (Tables.codes_foldl_append before ▸ hmem)
  | countryNameTaken hmem => exact hwelcome.2 (Tables.names_foldl_append before ▸ hmem)
  | userTaken hmem => exact hwelcome (Tables.userIds_foldl_append before ▸ hmem)
  | blogTaken hmem => exact hwelcome.1 (Tables.blogIds_foldl_append before ▸ hmem)
  | viewTaken hmem => exact hwelcome.1 (Tables.mem_viewIds_foldl_append.mpr hmem)
  | ownerMissing hmissing => exact hmissing (userIds_of_split h (Nat.le_refl 2) ▸ hwelcome.2.1)
  | blogCountryMissing hcountry hmissing =>
    exact hmissing (codes_of_split h (Nat.le_refl 2) ▸ hwelcome.2.2 _ hcountry)
  | blogMissing hmissing => exact hmissing (blogIds_of_split h (Nat.le_refl 3) ▸ hwelcome.2.1)
  | viewerMissing hviewer hmissing =>
    exact hmissing (userIds_of_split h hearly ▸ hwelcome.2.2.1 _ hviewer)
  | viewerCountryMissing hcountry hmissing =>
    exact hmissing (codes_of_split h hearly ▸ hwelcome.2.2.2 _ hcountry)

/-- **A fault of entering blames the entry.** -/
theorem blames_of_run_insert_eq_error {fault : ReferenceFault} {t : Tables}
    (hinsert : e.insert.run (before.foldl Tables.append .empty) = .error fault t) :
    d.Blames before e fault := by
  have hearly : 2 ≤ 3 := by decide
  cases e with
  | country c =>
    rcases (Tables.run_insertCountry_eq_error hinsert).2 with ⟨hcode, rfl⟩ | ⟨hname, rfl⟩
    · exact .countryCodeTaken (Tables.codes_foldl_append before ▸ hcode)
    · exact .countryNameTaken (Tables.names_foldl_append before ▸ hname)
  | user u =>
    obtain ⟨hid, rfl⟩ := (Tables.run_insertUser_eq_error hinsert).2
    exact .userTaken (Tables.userIds_foldl_append before ▸ hid)
  | blog b =>
    rcases (Tables.run_insertBlog_eq_error hinsert).2 with ⟨hid, rfl⟩ | ⟨howner, rfl⟩ |
      ⟨code, hcountry, hcode, rfl⟩
    · exact .blogTaken (Tables.blogIds_foldl_append before ▸ hid)
    · exact .ownerMissing (userIds_of_split h (Nat.le_refl 2) ▸ howner)
    · exact .blogCountryMissing hcountry (codes_of_split h (Nat.le_refl 2) ▸ hcode)
  | view v =>
    rcases (Tables.run_insertView_eq_error hinsert).2 with ⟨hid, rfl⟩ | ⟨hblog, rfl⟩ |
      ⟨user, hviewer, huser, rfl⟩ | ⟨code, hcountry, hcode, rfl⟩
    · exact .viewTaken (Tables.mem_viewIds_foldl_append.mp hid)
    · exact .blogMissing (blogIds_of_split h (Nat.le_refl 3) ▸ hblog)
    · exact .viewerMissing hviewer (userIds_of_split h hearly ▸ huser)
    · exact .viewerCountryMissing hcountry (codes_of_split h hearly ▸ hcode)

/-- **Every entry of a well-formed dataset is welcome** when it is reached. -/
theorem WellFormed.welcomes (hd : d.WellFormed) :
    (before.foldl Tables.append .empty).Welcomes e := by
  have hearly : 2 ≤ 3 := by decide
  cases e with
  | country c =>
    have hlist : d.countries = _ ++ c :: _ :=
      (filterMap_country?_entries d).symm.trans (filterMap_split rfl h)
    refine ⟨?_, ?_⟩
    · rw [Tables.codes_foldl_append]
      exact not_mem_map_of_nodup (hlist ▸ hd.codes)
    · rw [Tables.names_foldl_append]
      exact not_mem_map_of_nodup (hlist ▸ hd.names)
  | user u =>
    have hlist : d.users = _ ++ u :: _ :=
      (filterMap_user?_entries d).symm.trans (filterMap_split rfl h)
    show u.id ∉ _
    rw [Tables.userIds_foldl_append]
    exact not_mem_map_of_nodup (hlist ▸ hd.userIds)
  | blog b =>
    have hlist : d.blogs = _ ++ b :: _ :=
      (filterMap_blog?_entries d).symm.trans (filterMap_split rfl h)
    have hmem : b ∈ d.blogs := hlist ▸ List.mem_append_right _ List.mem_cons_self
    refine ⟨?_, ?_, ?_⟩
    · rw [Tables.blogIds_foldl_append]
      exact not_mem_map_of_nodup (hlist ▸ hd.blogIds)
    · rw [userIds_of_split h (Nat.le_refl 2)]
      exact hd.blogOwner b hmem
    · rw [codes_of_split h (Nat.le_refl 2)]
      exact hd.blogCountry b hmem
  | view v =>
    have hlist : d.views = _ ++ v :: _ :=
      (filterMap_view?_entries d).symm.trans (filterMap_split rfl h)
    have hmem : v ∈ d.views := hlist ▸ List.mem_append_right _ List.mem_cons_self
    refine ⟨?_, ?_, ?_, ?_⟩
    · rw [Tables.mem_viewIds_foldl_append]
      exact not_mem_map_of_nodup (hlist ▸ hd.viewIds)
    · rw [blogIds_of_split h (Nat.le_refl 3)]
      exact hd.viewBlog v hmem
    · rw [userIds_of_split h hearly]
      exact hd.viewer v hmem
    · rw [codes_of_split h hearly]
      exact hd.viewerCountry v hmem

end Split

/-! ## Loading -/

/-- The tables that hold a dataset. -/
def tables (d : Dataset) : Tables :=
  ⟨d.countries, d.users, d.blogs, d.views, (d.views.map (·.id)).reverse⟩

/-- All entries of a dataset make its tables. -/
theorem foldl_append_entries (d : Dataset) :
    d.entries.foldl Tables.append .empty = d.tables := by
  rw [Tables.foldl_append_eq, filterMap_country?_entries, filterMap_user?_entries,
    filterMap_blog?_entries, filterMap_view?_entries]
  simp [Tables.empty, tables]

/-- A dataset whose tables are sound is well formed. -/
theorem wellFormed_of_sound (h : d.tables.Sound) : d.WellFormed :=
  ⟨h.codes, h.names, h.userIds, h.blogIds, h.views, h.blogOwner, h.blogCountry, h.viewBlog,
    h.viewer, h.viewerCountry⟩

/-- Loading enters the four lists as one. -/
theorem load_eq (d : Dataset) : Tables.load d = d.entries.forM Entry.insert := by
  simp only [Tables.load, entries, List.forM_eq_forM, List.forM_append, List.forM_map]
  rfl

theorem ofDataset_eq_ok_iff_run {t : Tables} :
    Tables.ofDataset d = .ok t ↔ (Tables.load d).run .empty = .ok () t := by
  rw [Tables.ofDataset]
  cases (Tables.load d).run .empty <;> simp

theorem ofDataset_eq_error_iff_run {fault : ReferenceFault} :
    Tables.ofDataset d = .error fault ↔ ∃ t, (Tables.load d).run .empty = .error fault t := by
  rw [Tables.ofDataset]
  cases (Tables.load d).run .empty <;> simp

/-- **What loading holds** if it succeeds, and when it does. -/
theorem ofDataset_eq_ok_iff {t : Tables} :
    Tables.ofDataset d = .ok t ↔ d.WellFormed ∧ t = d.tables := by
  rw [ofDataset_eq_ok_iff_run, load_eq, Tables.run_forM_insert_eq_ok_iff, foldl_append_entries]
  refine and_congr_left fun _ => ⟨fun hwelcome => ?_, fun hd _ _ _ h => hd.welcomes h⟩
  have hsound := Tables.sound_empty.run d.entries
  rw [Tables.run_eq_of_welcomes hwelcome, foldl_append_entries] at hsound
  exact wellFormed_of_sound hsound

/-- **Loading accepts exactly the well-formed datasets.** What is loaded holds the
entries of the dataset, each list as it is and nothing else; a dataset that is refused
is refused with the fault of its first entry that can be blamed. -/
theorem ofDataset_accepts_iff (d : Dataset) :
    ((∃ t, Tables.ofDataset d = .ok t) ↔ d.WellFormed) ∧
    (∀ t, Tables.ofDataset d = .ok t →
      t.countries = d.countries ∧ t.users = d.users ∧ t.blogs = d.blogs ∧ t.views = d.views ∧
        ∀ id, id ∈ t.viewIds ↔ id ∈ d.views.map (·.id)) ∧
    ∀ fault, Tables.ofDataset d = .error fault → ∃ e, d.IsFirstBlamed e fault := by
  simp only [ofDataset_eq_ok_iff]
  refine ⟨?_, ?_, fun fault hfault => ?_⟩
  · simp
  · rintro t ⟨-, rfl⟩
    exact ⟨rfl, rfl, rfl, rfl, fun id => List.mem_reverse⟩
  · obtain ⟨t, hrun⟩ := ofDataset_eq_error_iff_run.mp hfault
    rw [load_eq] at hrun
    obtain ⟨before, e, after, hsplit, hbefore, hinsert⟩ :=
      Tables.exists_of_run_forM_insert_eq_error hrun
    refine ⟨e, before, after, hsplit, blames_of_run_insert_eq_error hsplit hinsert, ?_⟩
    intro first e' others hfirst fault'
    have hsplit' : d.entries = first ++ e' :: (others ++ e :: after) := by
      rw [hsplit, hfirst, List.append_assoc, List.cons_append]
    exact not_blames_of_welcomes hsplit' (hbefore first e' others hfirst)

end Dataset

end Readership

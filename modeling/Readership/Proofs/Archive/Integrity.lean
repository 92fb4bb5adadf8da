import Mathlib.Data.List.Nodup
import Readership.Archive.Tables
import Readership.Proofs.View.Conformance

/-!
# The integrity of an archive

An archive is filled by calls, each of which enters one country, user, blog or
view, or is refused. Entering is a change of the tables that keeps what it has
written when it is refused, so what a call leaves behind has to be followed check by
check. What it does is said once: an entry is accepted exactly if its keys are free
and what it refers to is there (`Tables.Welcomes`), and then it is appended and
everything else stays (`Tables.run_insert_eq_ok_iff`); an entry that is refused
leaves the tables as they were (`Tables.eq_of_run_insert_eq_error`). So the tables
stay *sound* (`Tables.Sound`) – keys are unique and no reference dangles – along
every run of calls, whatever was refused on the way.

Soundness is what joining relies on. Every stored view has its blog, so no view is
lost on the way to its record (`Tables.Sound.map_fst_records`), and every record
conforms to the fields; a country has a name where it has a code.
-/

namespace Readership

/-- **An entry** that a call brings. -/
inductive Entry where
  | country (c : Country)
  | user (u : User)
  | blog (b : Blog)
  | view (v : View)
deriving DecidableEq

/-- The view that an entry is. -/
def Entry.view? : Entry → Option View
  | view v => some v
  | _ => none

/-- **Entering an entry**, each kind in its own way. -/
def Entry.insert : Entry → Tables.Change Unit
  | country c => Tables.insertCountry c
  | user u => Tables.insertUser u
  | blog b => Tables.insertBlog b
  | view v => Tables.insertView v

namespace Tables

/-- **A call**: the tables that it leaves behind, and the fault if it is refused. -/
def call (t : Tables) (e : Entry) : Tables × Option ReferenceFault :=
  match e.insert.run t with
  | .ok _ t' => (t', none)
  | .error fault t' => (t', some fault)

/-- **A run** of calls, one after the other, whether they are refused or not. -/
def run : Tables → List Entry → Tables
  | t, [] => t
  | t, e :: rest => run (t.call e).1 rest

/-- The entries that a run accepts, in order. -/
def accepted : Tables → List Entry → List Entry
  | _, [] => []
  | t, e :: rest =>
    match (t.call e).2 with
    | none => e :: accepted (t.call e).1 rest
    | some _ => accepted (t.call e).1 rest

/-! ## What is there -/

/-- The codes of the countries. -/
def codes (t : Tables) : List String := t.countries.map (·.code)

/-- The names of the countries. -/
def names (t : Tables) : List String := t.countries.map (·.name)

/-- The ids of the users. -/
def userIds (t : Tables) : List String := t.users.map (·.id)

/-- The ids of the blogs. -/
def blogIds (t : Tables) : List Int := t.blogs.map (·.id)

variable {t t' : Tables} {fault : ReferenceFault}

/-- What is looked up by a key is found if the key occurs. -/
theorem isSome_find?_iff {α κ : Type} [DecidableEq κ] {key : α → κ} {k : κ} {entries : List α} :
    (entries.find? (key · == k)).isSome = true ↔ k ∈ entries.map key := by
  rw [List.find?_isSome, List.mem_map]
  simp only [beq_iff_eq]

theorem hasCode_iff {code : String} : t.hasCode code = true ↔ code ∈ t.codes :=
  isSome_find?_iff

theorem hasName_iff {name : String} : t.hasName name = true ↔ name ∈ t.names := by
  simp [hasName, names]

theorem hasUser_iff {id : String} : t.hasUser id = true ↔ id ∈ t.userIds := by
  simp [hasUser, userIds]

theorem hasBlog_iff {id : Int} : t.hasBlog id = true ↔ id ∈ t.blogIds :=
  isSome_find?_iff

/-! ## Check by check -/

section Checks

variable {α β : Type} {a : α} {next : Unit → Change α} {cause : ReferenceFault}

theorem run_get_bind (change : Tables → Change α) (t : Tables) :
    (get >>= change).run t = (change t).run t := rfl

theorem run_modify_bind (f : Tables → Tables) (t : Tables) :
    (modify f >>= next).run t = (next ()).run (f t) := rfl

/-- A check that passes writes nothing. -/
theorem run_refuseIf_bind_eq_ok_iff {refused : Bool} :
    (refuseIf refused cause >>= next).run t = .ok a t'
      ↔ refused = false ∧ (next ()).run t = .ok a t' := by
  cases refused <;> simp [refuseIf]

/-- **A check that fails** leaves what was written before it. -/
theorem run_refuseIf_bind_eq_error_iff {refused : Bool} :
    (refuseIf refused cause >>= next).run t = .error fault t'
      ↔ (refused = true ∧ fault = cause ∧ t' = t)
        ∨ (refused = false ∧ (next ()).run t = .error fault t') := by
  cases refused <;> simp [refuseIf, eq_comm]

/-- A check of what may be left out passes if nothing is given. -/
theorem run_forM_refuseIf_bind_eq_ok_iff {given : Option β} {refused : β → Bool}
    {cause : β → ReferenceFault} :
    ((given.forM fun b => refuseIf (refused b) (cause b)) >>= next).run t = .ok a t'
      ↔ (∀ b ∈ given, refused b = false) ∧ (next ()).run t = .ok a t' := by
  cases given with
  | none => simp [Option.forM]
  | some b => simpa using run_refuseIf_bind_eq_ok_iff

theorem run_forM_refuseIf_bind_eq_error_iff {given : Option β} {refused : β → Bool}
    {cause : β → ReferenceFault} :
    ((given.forM fun b => refuseIf (refused b) (cause b)) >>= next).run t = .error fault t'
      ↔ (∃ b ∈ given, refused b = true ∧ fault = cause b ∧ t' = t)
        ∨ ((∀ b ∈ given, refused b = false) ∧ (next ()).run t = .error fault t') := by
  cases given with
  | none => simp [Option.forM]
  | some b => simpa using run_refuseIf_bind_eq_error_iff

end Checks

/-! ## What a call does -/

/-- **An entry that is welcome**: its keys are free, and what it refers to is
there. -/
def Welcomes (t : Tables) : Entry → Prop
  | .country c => c.code ∉ t.codes ∧ c.name ∉ t.names
  | .user u => u.id ∉ t.userIds
  | .blog b => b.id ∉ t.blogIds ∧ b.owner ∈ t.userIds ∧ ∀ code ∈ b.country, code ∈ t.codes
  | .view v => v.id ∉ t.viewIds ∧ v.blog ∈ t.blogIds ∧
      (∀ user ∈ v.viewer, user ∈ t.userIds) ∧ ∀ code ∈ v.country, code ∈ t.codes

/-- **The tables with one more entry**, and nothing else changed. -/
def append (t : Tables) : Entry → Tables
  | .country c => { t with countries := t.countries ++ [c] }
  | .user u => { t with users := t.users ++ [u] }
  | .blog b => { t with blogs := t.blogs ++ [b] }
  | .view v => { t with views := t.views ++ [v], viewIds := v.id :: t.viewIds }

theorem run_insertCountry_eq_ok_iff {c : Country} :
    (insertCountry c).run t = .ok () t' ↔ t.Welcomes (.country c) ∧ t' = t.append (.country c) := by
  simp only [insertCountry, run_get_bind, run_refuseIf_bind_eq_ok_iff, EStateM.run_set,
    ← Bool.not_eq_true, hasCode_iff, hasName_iff, Welcomes, append, and_assoc,
    EStateM.Result.ok.injEq, true_and, @eq_comm _ _ t']

/-- A refused country has a code or a name that is taken. -/
theorem run_insertCountry_eq_error {c : Country} (h : (insertCountry c).run t = .error fault t') :
    t' = t ∧ ((c.code ∈ t.codes ∧ fault = .countryCodeTaken c.code) ∨
      (c.name ∈ t.names ∧ fault = .countryNameTaken c.name)) := by
  simp only [insertCountry, run_get_bind, run_refuseIf_bind_eq_error_iff, EStateM.run_set,
    hasCode_iff, hasName_iff, reduceCtorEq, and_false, or_false] at h
  rcases h with ⟨hcode, rfl, rfl⟩ | ⟨-, hname, rfl, rfl⟩
  · exact ⟨rfl, .inl ⟨hcode, rfl⟩⟩
  · exact ⟨rfl, .inr ⟨hname, rfl⟩⟩

/-- **What entering a user does.** A user whose id is taken is not added, so nothing is left
of it when it is refused. -/
theorem run_insertUser (u : User) (t : Tables) :
    (insertUser u).run t =
      if u.id ∈ t.userIds then .error (.userTaken u.id) t else .ok () (t.append (.user u)) := by
  simp only [insertUser, addUser, EStateM.run_bind, EStateM.run_modifyGet, hasUser_iff]
  by_cases hid : u.id ∈ t.userIds
  · simp [hid, refuseIf]
  · simp [hid, refuseIf, append]

theorem run_insertUser_eq_ok_iff {u : User} :
    (insertUser u).run t = .ok () t' ↔ t.Welcomes (.user u) ∧ t' = t.append (.user u) := by
  rw [run_insertUser]
  by_cases hid : u.id ∈ t.userIds
  · simp [hid, Welcomes]
  · simp [hid, Welcomes, eq_comm]

/-- A refused user has an id that is taken. -/
theorem run_insertUser_eq_error {u : User} (h : (insertUser u).run t = .error fault t') :
    t' = t ∧ u.id ∈ t.userIds ∧ fault = .userTaken u.id := by
  rw [run_insertUser] at h
  split at h
  next hid =>
    cases h
    exact ⟨rfl, hid, rfl⟩
  · cases h

theorem run_insertBlog_eq_ok_iff {b : Blog} :
    (insertBlog b).run t = .ok () t' ↔ t.Welcomes (.blog b) ∧ t' = t.append (.blog b) := by
  simp only [insertBlog, run_get_bind, run_refuseIf_bind_eq_ok_iff,
    run_forM_refuseIf_bind_eq_ok_iff, EStateM.run_set, Bool.not_eq_true', ← Bool.not_eq_true,
    not_not, hasCode_iff, hasUser_iff, hasBlog_iff, Welcomes, append, and_assoc,
    EStateM.Result.ok.injEq, true_and, @eq_comm _ _ t']

/-- A refused blog has an id that is taken, or an owner or a country that is not
there. -/
theorem run_insertBlog_eq_error {b : Blog} (h : (insertBlog b).run t = .error fault t') :
    t' = t ∧ ((b.id ∈ t.blogIds ∧ fault = .blogTaken b.id) ∨
      (b.owner ∉ t.userIds ∧ fault = .ownerMissing b.id b.owner) ∨
      ∃ code, b.country = some code ∧ code ∉ t.codes ∧
        fault = .blogCountryMissing b.id code) := by
  simp only [insertBlog, run_get_bind, run_refuseIf_bind_eq_error_iff,
    run_forM_refuseIf_bind_eq_error_iff, EStateM.run_set, Bool.not_eq_true', ← Bool.not_eq_true,
    hasCode_iff, hasUser_iff, hasBlog_iff, reduceCtorEq, and_false, or_false] at h
  rcases h with ⟨hid, rfl, rfl⟩ | ⟨-, ⟨howner, rfl, rfl⟩ | ⟨-, code, hcountry, hcode, rfl, rfl⟩⟩
  · exact ⟨rfl, .inl ⟨hid, rfl⟩⟩
  · exact ⟨rfl, .inr (.inl ⟨howner, rfl⟩)⟩
  · exact ⟨rfl, .inr (.inr ⟨code, hcountry, hcode, rfl⟩)⟩

theorem run_insertView_eq_ok_iff {v : View} :
    (insertView v).run t = .ok () t' ↔ t.Welcomes (.view v) ∧ t' = t.append (.view v) := by
  simp only [insertView, run_get_bind, run_refuseIf_bind_eq_ok_iff,
    run_forM_refuseIf_bind_eq_ok_iff, run_modify_bind, EStateM.run_modify, Bool.not_eq_true',
    ← Bool.not_eq_true, not_not, hasCode_iff, hasUser_iff, hasBlog_iff, List.contains_iff_mem,
    Welcomes, append, and_assoc, EStateM.Result.ok.injEq, true_and, @eq_comm _ _ t']

/-- A refused view has an id that is taken, or a blog, a viewer or a country that is
not there. -/
theorem run_insertView_eq_error {v : View} (h : (insertView v).run t = .error fault t') :
    t' = t ∧ ((v.id ∈ t.viewIds ∧ fault = .viewTaken v.id) ∨
      (v.blog ∉ t.blogIds ∧ fault = .blogMissing v.id v.blog) ∨
      (∃ user, v.viewer = some user ∧ user ∉ t.userIds ∧ fault = .viewerMissing v.id user) ∨
      ∃ code, v.country = some code ∧ code ∉ t.codes ∧
        fault = .viewerCountryMissing v.id code) := by
  simp only [insertView, run_get_bind, run_refuseIf_bind_eq_error_iff,
    run_forM_refuseIf_bind_eq_error_iff, run_modify_bind, EStateM.run_modify, Bool.not_eq_true',
    ← Bool.not_eq_true, hasCode_iff, hasUser_iff, hasBlog_iff, List.contains_iff_mem,
    reduceCtorEq, and_false, or_false] at h
  rcases h with ⟨hid, rfl, rfl⟩ | ⟨-, ⟨hblog, rfl, rfl⟩ | ⟨-, ⟨user, hviewer, huser, rfl, rfl⟩ |
    ⟨-, code, hcountry, hcode, rfl, rfl⟩⟩⟩
  · exact ⟨rfl, .inl ⟨hid, rfl⟩⟩
  · exact ⟨rfl, .inr (.inl ⟨hblog, rfl⟩)⟩
  · exact ⟨rfl, .inr (.inr (.inl ⟨user, hviewer, huser, rfl⟩))⟩
  · exact ⟨rfl, .inr (.inr (.inr ⟨code, hcountry, hcode, rfl⟩))⟩

/-- **What entering does**: a welcome entry is appended, any other is refused. -/
theorem run_insert_eq_ok_iff {e : Entry} :
    e.insert.run t = .ok () t' ↔ t.Welcomes e ∧ t' = t.append e := by
  cases e with
  | country c => exact run_insertCountry_eq_ok_iff
  | user u => exact run_insertUser_eq_ok_iff
  | blog b => exact run_insertBlog_eq_ok_iff
  | view v => exact run_insertView_eq_ok_iff

/-- **A refused entry leaves the tables as they were**: nothing is written before the last
check has passed. -/
theorem eq_of_run_insert_eq_error {e : Entry} (h : e.insert.run t = .error fault t') : t' = t := by
  cases e with
  | country c => exact (run_insertCountry_eq_error h).1
  | user u => exact (run_insertUser_eq_error h).1
  | blog b => exact (run_insertBlog_eq_error h).1
  | view v => exact (run_insertView_eq_error h).1

/-- **What a call does**: it appends a welcome entry, or it is refused and leaves
the tables as they were. -/
theorem call_cases (t : Tables) (e : Entry) :
    (t.Welcomes e ∧ t.call e = (t.append e, none)) ∨
    (¬t.Welcomes e ∧ ∃ fault, t.call e = (t, some fault)) := by
  cases h : e.insert.run t with
  | ok _ t' =>
    obtain ⟨hwelcome, rfl⟩ := run_insert_eq_ok_iff.mp h
    exact .inl ⟨hwelcome, by rw [call, h]⟩
  | error fault t' =>
    obtain rfl := eq_of_run_insert_eq_error h
    refine .inr ⟨fun hwelcome => ?_, fault, by rw [call, h]⟩
    rw [run_insert_eq_ok_iff.mpr ⟨hwelcome, rfl⟩] at h
    cases h

/-! ## Soundness -/

/-- **Sound tables**: keys are unique, and what an entry refers to is there. -/
structure Sound (t : Tables) : Prop where
  codes : t.codes.Nodup
  names : t.names.Nodup
  userIds : t.userIds.Nodup
  blogIds : t.blogIds.Nodup
  views : (t.views.map (·.id)).Nodup
  /-- The ids that are taken are those of the views. -/
  viewIds : ∀ id, id ∈ t.viewIds ↔ id ∈ t.views.map (·.id)
  blogOwner : ∀ b ∈ t.blogs, b.owner ∈ t.userIds
  blogCountry : ∀ b ∈ t.blogs, ∀ code ∈ b.country, code ∈ t.codes
  viewBlog : ∀ v ∈ t.views, v.blog ∈ t.blogIds
  viewer : ∀ v ∈ t.views, ∀ user ∈ v.viewer, user ∈ t.userIds
  viewerCountry : ∀ v ∈ t.views, ∀ code ∈ v.country, code ∈ t.codes

theorem sound_empty : Sound empty where
  codes := List.nodup_nil
  names := List.nodup_nil
  userIds := List.nodup_nil
  blogIds := List.nodup_nil
  views := List.nodup_nil
  viewIds := fun _ => Iff.rfl
  blogOwner := fun _ h => nomatch h
  blogCountry := fun _ h => nomatch h
  viewBlog := fun _ h => nomatch h
  viewer := fun _ h => nomatch h
  viewerCountry := fun _ h => nomatch h

/-- A free key at the end keeps keys unique. -/
theorem nodup_map_concat {α κ : Type} {key : α → κ} {entries : List α} {a : α}
    (h : (entries.map key).Nodup) (hfree : key a ∉ entries.map key) :
    ((entries ++ [a]).map key).Nodup := by
  rw [List.map_append, List.map_singleton, ← List.concat_eq_append]
  exact h.concat hfree

/-- What was there is there after one more entry. -/
theorem mem_map_concat {α κ : Type} {key : α → κ} {entries : List α} {k : κ} (a : α)
    (h : k ∈ entries.map key) : k ∈ (entries ++ [a]).map key := by
  rw [List.map_append]
  exact List.mem_append_left _ h

/-- What holds of all entries and of one more holds of all then. -/
theorem forall_mem_concat {α : Type} {P : α → Prop} {entries : List α} {a : α}
    (h : ∀ b ∈ entries, P b) (ha : P a) : ∀ b ∈ entries ++ [a], P b := by
  intro b hb
  rcases List.mem_append.mp hb with hold | hnew
  · exact h b hold
  · exact List.mem_singleton.mp hnew ▸ ha

/-- **A welcome entry keeps the tables sound.** -/
theorem Sound.append (h : t.Sound) {e : Entry} (he : t.Welcomes e) : (t.append e).Sound := by
  cases e with
  | country c =>
    obtain ⟨hcode, hname⟩ := he
    exact { h with
      codes := nodup_map_concat h.codes hcode
      names := nodup_map_concat h.names hname
      blogCountry := fun b hb code hc => mem_map_concat c (h.blogCountry b hb code hc)
      viewerCountry := fun v hv code hc => mem_map_concat c (h.viewerCountry v hv code hc) }
  | user u =>
    exact { h with
      userIds := nodup_map_concat h.userIds he
      blogOwner := fun b hb => mem_map_concat u (h.blogOwner b hb)
      viewer := fun v hv user hu => mem_map_concat u (h.viewer v hv user hu) }
  | blog b =>
    obtain ⟨hid, howner, hcountry⟩ := he
    exact { h with
      blogIds := nodup_map_concat h.blogIds hid
      blogOwner := forall_mem_concat h.blogOwner howner
      blogCountry := forall_mem_concat h.blogCountry hcountry
      viewBlog := fun v hv => mem_map_concat b (h.viewBlog v hv) }
  | view v =>
    obtain ⟨hid, hblog, hviewer, hcountry⟩ := he
    -- an id that is not taken is not that of a view
    exact { h with
      views := nodup_map_concat h.views fun hmem => hid ((h.viewIds v.id).mpr hmem)
      viewIds := fun id => by
        show id ∈ v.id :: t.viewIds ↔ id ∈ (t.views ++ [v]).map (·.id)
        rw [List.mem_cons, h.viewIds, List.map_append, List.mem_append, List.map_singleton,
          List.mem_singleton, or_comm]
      viewBlog := forall_mem_concat h.viewBlog hblog
      viewer := forall_mem_concat h.viewer hviewer
      viewerCountry := forall_mem_concat h.viewerCountry hcountry }

/-- **A call keeps the tables sound**, refused or not. -/
theorem Sound.call (h : t.Sound) (e : Entry) : (t.call e).1.Sound := by
  rcases call_cases t e with ⟨hwelcome, heq⟩ | ⟨-, fault, heq⟩
  · rw [heq]
    exact h.append hwelcome
  · rw [heq]
    exact h

/-- **A run keeps the tables sound.** -/
theorem Sound.run (h : t.Sound) (entries : List Entry) : (t.run entries).Sound := by
  induction entries generalizing t with
  | nil => exact h
  | cons e rest ih => exact ih (h.call e)

/-- **A run appends what it accepts**, in order, and nothing else. -/
theorem run_eq_foldl_append (t : Tables) (entries : List Entry) :
    t.run entries = (t.accepted entries).foldl append t := by
  induction entries generalizing t with
  | nil => rfl
  | cons e rest ih =>
    rw [run, accepted, ih]
    rcases call_cases t e with ⟨-, heq⟩ | ⟨-, fault, heq⟩
    · rw [heq, List.foldl_cons]
    · rw [heq]

/-- The views among appended entries. -/
theorem views_foldl_append (t : Tables) (entries : List Entry) :
    (entries.foldl append t).views = t.views ++ entries.filterMap Entry.view? := by
  induction entries generalizing t with
  | nil => simp
  | cons e rest ih =>
    rw [List.foldl_cons, ih]
    cases e <;> simp [append, Entry.view?, List.filterMap_cons]

/-! ## Records -/

/-- **No view is lost on the way to its record.** -/
theorem Sound.exists_record? (h : t.Sound) {v : View} (hv : v ∈ t.views) :
    ∃ b ∈ t.blogs, t.record? v = some (v, t.recordOf v b) := by
  obtain ⟨b, hb⟩ := Option.isSome_iff_exists.mp (hasBlog_iff.mpr (h.viewBlog v hv))
  exact ⟨b, List.mem_of_find?_eq_some hb, by rw [record?, hb, Option.map_some]⟩

/-- **The records are those of the views**, one each, in order. -/
theorem Sound.map_fst_records (h : t.Sound) : t.records.map (·.1) = t.views := by
  have hall : ∀ vs : List View, (∀ v ∈ vs, v ∈ t.views) →
      (vs.filterMap t.record?).map (·.1) = vs := by
    intro vs hvs
    induction vs with
    | nil => rfl
    | cons v vs ih =>
      obtain ⟨hv, hrest⟩ := List.forall_mem_cons.mp hvs
      obtain ⟨b, -, hrecord⟩ := h.exists_record? hv
      rw [List.filterMap_cons_some hrecord, List.map_cons, ih hrest]
  exact hall t.views fun _ => id

/-- **Everything is selected by the selection of everything.** -/
theorem Sound.filterIds_all (h : t.Sound) : t.filterIds .all = .ok (t.views.map (·.id)) := by
  have hmatching : t.matching .all = t.records := by
    rw [matching, List.filter_eq_self]
    exact fun r _ => Selection.holds_all r.2
  rw [filterIds, Predicate.check_all, ← h.map_fst_records, List.map_map]
  show Except.ok ((t.matching .all).map _) = _
  rw [hmatching]
  rfl

/-- A country that is there has a name. -/
theorem ofText?_name_eq_null_iff {country : Option String}
    (h : ∀ code ∈ country, code ∈ t.codes) :
    FieldValue.ofText? ((country.bind t.country?).map (·.name)) = .null
      ↔ FieldValue.ofText? country = .null := by
  cases country with
  | none => exact Iff.rfl
  | some code =>
    obtain ⟨c, hc⟩ := Option.isSome_iff_exists.mp (hasCode_iff.mpr (h code rfl))
    simp [hc, FieldValue.ofText?]

/-- **A record conforms**, whatever its view and blog. -/
theorem conforms_recordOf (t : Tables) (v : View) (b : Blog) : (t.recordOf v b).Conforms := by
  intro f
  cases f
  case viewId => exact .inl rfl
  case viewedAt => exact .inl rfl
  case blogId => exact .inl rfl
  case blogTitle => exact .inl rfl
  case blogOwner => exact .inl rfl
  all_goals exact (FieldValue.kind?_ofText? _).imp id fun h => ⟨h, rfl⟩

/-- **The integrity of an archive.** After every run of calls from the empty tables:
the tables are sound; one more call that is refused leaves them as they were; every
accepted view is found, in the order of entering; and every stored view has a record,
which conforms and has the name of a country where it has its code. -/
theorem run_integrity (entries : List Entry) :
    (empty.run entries).Sound ∧
    (∀ e, ((empty.run entries).call e).2 ≠ none →
      ((empty.run entries).call e).1 = empty.run entries) ∧
    (empty.run entries).filterIds .all
      = .ok (((empty.accepted entries).filterMap Entry.view?).map (·.id)) ∧
    ∀ v ∈ (empty.run entries).views, ∃ r, (empty.run entries).record? v = some (v, r) ∧
      r.Conforms ∧
      (r .blogCountryName = .null ↔ r .blogCountryCode = .null) ∧
      (r .viewerCountryName = .null ↔ r .viewerCountryCode = .null) := by
  have hsound : (empty.run entries).Sound := sound_empty.run entries
  refine ⟨hsound, fun e hrefused => ?_, ?_, fun v hv => ?_⟩
  · rcases call_cases (empty.run entries) e with ⟨-, heq⟩ | ⟨-, fault, heq⟩
    · exact absurd (by rw [heq]) hrefused
    · rw [heq]
  · rw [hsound.filterIds_all, run_eq_foldl_append, views_foldl_append]
    rfl
  · obtain ⟨b, hb, hrecord⟩ := hsound.exists_record? hv
    exact ⟨_, hrecord, conforms_recordOf _ v b,
      ofText?_name_eq_null_iff (hsound.blogCountry b hb),
      ofText?_name_eq_null_iff (hsound.viewerCountry v hv)⟩

end Tables

end Readership

import Readership.Proofs.Text.Search
import Readership.Settings.Document

/-!
# Settings that are accepted

Settings for a source of views are in order (`SourceSettings.InOrder`) if there is time to
answer, the table has a plain name, a server has a URL of HTTP and both credentials or
none, and a dataset in memory has its file, unless nothing is said about the source at all.

The check looks for all of this, but not in every case: settings for a dataset in memory
without a file await one from the call (`SourceSettings.AwaitsFile`), and then nothing else
in them is looked at. So these are accepted as they are, and the others exactly if they are
in order (`Settings.ofText_accepts_iff`). A document that leaves the file out and says
anything else of the source is accepted out of order (`Settings.ofText_accepts_noTime`).
-/

namespace Readership

/-! ## Names and URLs -/

/-- **A plain name**: a letter of ASCII or an underscore, and then letters, digits and
underscores. -/
inductive IsPlainName : List Char → Prop where
  | mk {c : Char} {rest : List Char} : (c.isAlpha = true ∨ c = '_') →
    (∀ d ∈ rest, d.isAlpha = true ∨ d.isDigit = true ∨ d = '_') → IsPlainName (c :: rest)

/-- **A plain table**: a name, perhaps behind that of its database and a dot. -/
inductive IsPlainTable : List Char → Prop where
  | name {cs : List Char} : IsPlainName cs → IsPlainTable cs
  | qualified {database cs : List Char} : IsPlainName database → IsPlainName cs →
    IsPlainTable (database ++ '.' :: cs)

/-- A URL of HTTP. -/
def IsHttp (url : String) : Prop :=
  ∃ rest, url = "http://" ++ rest ∨ url = "https://" ++ rest

theorem isIdentifier_iff {cs : List Char} : isIdentifier cs = true ↔ IsPlainName cs := by
  cases cs with
  | nil => exact iff_of_false Bool.false_ne_true fun h => nomatch h
  | cons c rest =>
    have hstart : isIdentifierStart c = true ↔ c.isAlpha = true ∨ c = '_' := by
      simp [isIdentifierStart]
    have hrest : rest.all isIdentifierChar = true
        ↔ ∀ d ∈ rest, d.isAlpha = true ∨ d.isDigit = true ∨ d = '_' := by
      simp [isIdentifierChar, Char.isAlphanum, or_assoc]
    rw [isIdentifier, Bool.and_eq_true, hstart, hrest]
    constructor
    · exact fun h => .mk h.1 h.2
    · rintro ⟨hc, hd⟩
      exact ⟨hc, hd⟩

/-- A plain name has no dot in it. -/
theorem IsPlainName.dot_not_mem {cs : List Char} (h : IsPlainName cs) : '.' ∉ cs := by
  obtain ⟨hc, hrest⟩ := h
  intro hdot
  rcases List.mem_cons.mp hdot with rfl | hdot
  · exact absurd hc (by decide)
  · exact absurd (hrest '.' hdot) (by decide)

/-- **The names of tables that are accepted are the plain ones.** -/
theorem isTableName_iff {s : String} : isTableName s = true ↔ IsPlainTable s.toList := by
  simp only [isTableName, Bool.and_eq_true, decide_eq_true_eq, List.all_eq_true, isIdentifier_iff]
  constructor
  · rintro ⟨hlength, hparts⟩
    rw [← Text.intercalate_splitAt '.' s.toList]
    -- there is one part, or there are two
    match Text.splitAt '.' s.toList, Text.splitAt_ne_nil '.' s.toList, hlength, hparts with
    | [cs], _, _, hparts =>
      rw [List.intercalate_singleton]
      exact .name (List.forall_mem_singleton.mp hparts)
    | [database, cs], _, _, hparts =>
      obtain ⟨hdatabase, hname⟩ := List.forall_mem_cons.mp hparts
      rw [List.intercalate_cons_cons, List.intercalate_singleton, List.append_assoc]
      exact .qualified hdatabase (List.forall_mem_singleton.mp hname)
  · intro h
    generalize s.toList = cs at h
    cases h with
    | name hname =>
      rw [Text.splitAt_eq_singleton hname.dot_not_mem]
      exact ⟨Nat.le_succ 1, List.forall_mem_singleton.mpr hname⟩
    | qualified hdatabase hname =>
      rw [Text.splitAt_append_cons, Text.splitAt_eq_singleton hdatabase.dot_not_mem,
        Text.splitAt_eq_singleton hname.dot_not_mem]
      exact ⟨Nat.le_refl 2,
        List.forall_mem_cons.mpr ⟨hdatabase, List.forall_mem_singleton.mpr hname⟩⟩

theorem isHttpUrl_iff {url : String} : isHttpUrl url = true ↔ IsHttp url := by
  have hbegins (scheme : String) :
      scheme.toList.isPrefixOf url.toList = true ↔ ∃ rest, url = scheme ++ rest := by
    rw [List.isPrefixOf_iff_prefix]
    constructor
    · rintro ⟨rest, hrest⟩
      exact ⟨String.ofList rest, by rw [← String.toList_inj]; simp [hrest]⟩
    · rintro ⟨rest, rfl⟩
      exact ⟨rest.toList, by simp⟩
  rw [isHttpUrl, Bool.or_eq_true, hbegins, hbegins, IsHttp, exists_or]

namespace SourceSettings

variable {s : SourceSettings}

/-- **Settings that await a file** from the call: they are for a dataset in memory and name
none. -/
def AwaitsFile (s : SourceSettings) : Prop :=
  s.kind = .memory ∧ s.dataPath = none

/-- **Settings of a source that are in order.** -/
structure InOrder (s : SourceSettings) : Prop where
  executionTime : 1 ≤ s.maxExecutionTime
  table : IsPlainTable s.table.toList
  server : s.kind = .server →
    (∃ url, s.url = some url ∧ IsHttp url) ∧ s.username.isSome = s.password.isSome
  /-- A dataset in memory has its file, unless nothing is said about the source. -/
  file : s.kind = .memory → s.dataPath ≠ none ∨ s = usual

/-- **What a server needs.** -/
theorem serverFault?_eq_none_iff : s.serverFault? = none
    ↔ (∃ url, s.url = some url ∧ IsHttp url) ∧ s.username.isSome = s.password.isSome := by
  rw [serverFault?]
  cases s.url with
  | none => simp
  | some url =>
    simp only [Option.some.injEq, exists_eq_left', ← isHttpUrl_iff]
    by_cases hhttp : isHttpUrl url = true
    · by_cases hpair : s.username.isSome = s.password.isSome <;> simp [hhttp, hpair]
    · simp [hhttp]

/-- **What a source needs**, of either kind. -/
theorem kindFault?_eq_none_iff : s.kindFault? = none
    ↔ (s.kind = .server →
        (∃ url, s.url = some url ∧ IsHttp url) ∧ s.username.isSome = s.password.isSome) ∧
      ¬ s.AwaitsFile := by
  rw [kindFault?, AwaitsFile]
  cases hkind : s.kind with
  | memory => cases hpath : s.dataPath <;> simp [memoryFault?, hpath]
  | server => simp [serverFault?_eq_none_iff]

/-- The usual settings are in order. -/
theorem inOrder_usual : usual.InOrder where
  executionTime := by decide
  table := isTableName_iff.mp (by decide)
  server := fun h => nomatch h
  file := fun _ => .inr rfl

/-- **Nothing is wrong with settings that are in order**, unless they await a file. -/
theorem fault?_eq_none_iff : s.fault? = none ↔ s.InOrder ∧ ¬ s.AwaitsFile := by
  have hcases : s.fault? = none
      ↔ s.kindFault? = none ∧ 1 ≤ s.maxExecutionTime ∧ isTableName s.table = true := by
    rw [fault?]
    cases s.kindFault? with
    | some fault => simp
    | none =>
      by_cases htime : s.maxExecutionTime = 0
      · simp [htime]
      · by_cases htable : isTableName s.table = true <;>
          simp [htime, htable, Nat.one_le_iff_ne_zero]
  rw [hcases, kindFault?_eq_none_iff, isTableName_iff]
  constructor
  · rintro ⟨⟨hserver, hfile⟩, htime, htable⟩
    exact ⟨⟨htime, htable, hserver, fun hkind => .inl fun hpath => hfile ⟨hkind, hpath⟩⟩, hfile⟩
  · rintro ⟨⟨htime, htable, hserver, -⟩, hfile⟩
    exact ⟨⟨hserver, hfile⟩, htime, htable⟩

/-- **Settings that await a file are in order** only where nothing is said about the
source. -/
theorem AwaitsFile.inOrder_iff (h : s.AwaitsFile) : s.InOrder ↔ s = usual := by
  constructor
  · exact fun horder => (horder.file h.1).resolve_left fun hpath => hpath h.2
  · rintro rfl
    exact inOrder_usual

end SourceSettings

namespace Settings

variable {s : Settings} {text : String}

/-- **What a document says**, not looked at further. -/
def Decodes (text : String) (s : Settings) : Prop :=
  ∃ members, Toml.read? text = some members ∧ ofValue? (.table members) = some s

theorem fault?_eq_none_iff :
    s.fault? = none ↔ s.source.AwaitsFile ∨ s.source.InOrder := by
  rw [fault?]
  by_cases hfile : s.source.kind = .memory ∧ s.source.dataPath = none
  · rw [if_pos hfile]
    exact iff_of_true rfl (.inl hfile)
  · rw [if_neg hfile, SourceSettings.fault?_eq_none_iff]
    exact ⟨fun h => .inr h.1, fun h => ⟨h.resolve_left hfile, hfile⟩⟩

theorem accept_eq_ok_iff {accepted : Settings} :
    accept s = .ok accepted ↔ s = accepted ∧ (s.source.AwaitsFile ∨ s.source.InOrder) := by
  rw [← fault?_eq_none_iff, accept]
  cases s.fault? with
  | some fault => simp
  | none => simp

/-- A document is read and then looked at. -/
theorem ofText_eq_ok_iff :
    ofText text = .ok s ↔ ∃ decoded, Decodes text decoded ∧ accept decoded = .ok s := by
  simp only [Decodes, ← Option.bind_eq_some_iff]
  rw [ofText]
  cases (Toml.read? text).bind fun members => ofValue? (.table members) with
  | none => simp
  | some decoded => simp

/-- **Which documents are accepted.** The settings of a document are accepted if they are in
order or await a file, and come out as they are. So accepted settings are in order, unless
they await a file and say something else about the source. -/
theorem ofText_accepts_iff (text : String) (s : Settings) :
    (ofText text = .ok s ↔ Decodes text s ∧ (s.source.AwaitsFile ∨ s.source.InOrder)) ∧
      (ofText text = .ok s →
        (s.source.InOrder ↔ (s.source.AwaitsFile → s.source = .usual))) := by
  have haccepted :
      ofText text = .ok s ↔ Decodes text s ∧ (s.source.AwaitsFile ∨ s.source.InOrder) := by
    rw [ofText_eq_ok_iff]
    constructor
    · rintro ⟨decoded, hdecodes, haccept⟩
      obtain ⟨rfl, hfit⟩ := accept_eq_ok_iff.mp haccept
      exact ⟨hdecodes, hfit⟩
    · rintro ⟨hdecodes, hfit⟩
      exact ⟨s, hdecodes, accept_eq_ok_iff.mpr ⟨rfl, hfit⟩⟩
  refine ⟨haccepted, fun h => ?_⟩
  have hfit := (haccepted.mp h).2
  by_cases hfile : s.source.AwaitsFile
  · rw [hfile.inOrder_iff]
    exact ⟨fun husual _ => husual, fun husual => husual hfile⟩
  · exact iff_of_true (hfit.resolve_left hfile) fun h => absurd h hfile

/-- The settings of a server with a user are accepted and in order. -/
theorem ofText_accepts_iff_server :
    let source : SourceSettings :=
      { kind := .server, dataPath := none, url := some "https://ch", database := "default",
        table := "db.views", username := some "ann", password := some "",
        maxExecutionTime := 1 }
    ofText ("[query]\nbackend = \"clickhouse\"\nurl = \"https://ch\"\ntable = \"db.views\"\n" ++
        "username = \"ann\"\npassword = \"\"\nmax_execution_time = 1") = .ok ⟨.usual, source⟩ ∧
      source.InOrder := by
  intro source
  have horder : source.InOrder :=
    { executionTime := Nat.le_refl 1
      table := isTableName_iff.mp (by decide)
      server := fun _ => ⟨⟨"https://ch", rfl, "ch", .inr rfl⟩, rfl⟩
      file := fun hmemory => nomatch hmemory }
  refine ⟨(ofText_accepts_iff _ ⟨.usual, source⟩).1.mpr ⟨?_, .inr horder⟩, horder⟩
  exact Option.bind_eq_some_iff.mp (by decide +kernel)

/-- **A document may leave out the file and the time too**: it is accepted, with no time to
answer. -/
theorem ofText_accepts_noTime : ¬ ∀ text s, ofText text = .ok s → s.source.InOrder := by
  intro hall
  have hzero : ((ofText "[query]\nmax_execution_time = 0").toOption.map
      fun s => s.source.maxExecutionTime) = some 0 := by decide +kernel
  cases htext : ofText "[query]\nmax_execution_time = 0" with
  | error fault =>
    rw [htext] at hzero
    cases hzero
  | ok s =>
    rw [htext] at hzero
    have hnone : s.source.maxExecutionTime = 0 := Option.some.inj hzero
    exact absurd (hall _ s htext).executionTime (hnone ▸ by decide)

end Settings

end Readership

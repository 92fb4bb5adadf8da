import Readership.Proofs.Sql.Rewording

/-!
# Statements of plans before the guard

The statement of a plan is one that reads, so the guard has no reason to refuse it.
It begins with `SELECT`, it has no semicolon, and no fragment of it has one of the
keywords that the guard looks for between blanks (`Sql.Calm`), whatever the plan
asks for.

One piece of it is not a fragment of this kind. A table may have any plain name,
and `into` and `format` are plain names. Where nothing follows the table this does
no harm, as there is no second blank. Everywhere else the guard takes the table for
the keyword and refuses to send the statement (`Sql.planText_into_refused`). These
are the only statements of plans that it refuses (`Sql.planText_passes_iff`).
-/

namespace Readership

/-- Only the predicate of every view becomes the selection of every view. -/
theorem Predicate.check_eq_all_iff {p : Predicate} : p.check = .ok .all ↔ p = .all := by
  cases p <;> simp [Outcome.map_eq_ok]

/-- **A plan that ends with its table**: nothing to restrict, to group, to order or to
limit. -/
structure Plan.EndsWithTable (plan : Plan) : Prop where
  predicate : plan.predicate = .all
  bucket : plan.bucket = none
  groupBy : plan.groupBy = []
  order : plan.order = .byGroup
  limit : plan.limit = none

namespace Sql

/-! ## Keywords between blanks -/

/-- What stands in a part of a text stands in the text. -/
theorem Stands.of_isInfix {keyword cs ds : List Char} (h : Stands keyword cs)
    (hpart : cs <:+: ds) : Stands keyword ds := by
  obtain ⟨u, v, rfl⟩ := hpart
  obtain ⟨before, word, after, rfl, hword⟩ := h
  exact ⟨u ++ before, word, after ++ v, by simp, hword⟩

/-- **What stands between blanks is a piece**, and not the last one. -/
theorem exists_piece_of_stands {keyword cs : List Char} (h : Stands keyword cs)
    (hkeyword : ' ' ∉ keyword) :
    ∃ piece ∈ (Text.splitAt ' ' cs).dropLast, Text.upper piece = keyword := by
  obtain ⟨before, word, after, rfl, hword⟩ := h
  refine ⟨word, ?_, hword⟩
  rw [Text.splitAt_append_cons, Text.splitAt_append_cons,
    Text.splitAt_eq_singleton (Text.blank_not_mem_of_upper hword hkeyword)]
  obtain ⟨first, back, hafter⟩ := List.exists_cons_of_ne_nil (Text.splitAt_ne_nil ' ' after)
  rw [hafter, ← List.append_assoc, List.dropLast_append_cons]
  simp

theorem blank_not_mem_of_mem_keywords {keyword : List Char} (h : keyword ∈ keywords) :
    ' ' ∉ keyword := by
  have hall : ∀ k ∈ keywords, ' ' ∉ k := by decide
  exact hall keyword h

/-- **In a quiet text** stands no keyword. -/
theorem not_stands_of_quiet {keyword cs : List Char} (hkeyword : keyword ∈ keywords)
    (h : Quiet cs) : ¬ Stands keyword cs := by
  intro hstands
  obtain ⟨piece, hpiece, hupper⟩ :=
    exists_piece_of_stands hstands (blank_not_mem_of_mem_keywords hkeyword)
  exact h piece (List.mem_of_mem_dropLast hpiece) (hupper ▸ hkeyword)

/-- **At the end of a text** a keyword does not stand, as no blank follows it. -/
theorem not_stands_of_quiet_append {keyword u t : List Char} (hkeyword : keyword ∈ keywords)
    (hu : Quiet u) (ht : ' ' ∉ t) : ¬ Stands keyword (u ++ ' ' :: t) := by
  intro hstands
  obtain ⟨piece, hpiece, hupper⟩ :=
    exists_piece_of_stands hstands (blank_not_mem_of_mem_keywords hkeyword)
  rw [Text.splitAt_append_cons, Text.splitAt_eq_singleton ht, List.dropLast_concat] at hpiece
  exact hu piece hpiece (hupper ▸ hkeyword)

namespace Select

variable {s : Select}

/-- A blank, and then something else than a blank or a literal. -/
def goesOn : List Char → Bool
  | ' ' :: c :: _ => !Text.isBlank c && c != '\''
  | _ => false

theorem exists_of_goesOn {cs : List Char} (h : goesOn cs = true) :
    ∃ c rest, cs = ' ' :: c :: rest ∧ Text.isBlank c = false ∧ c ≠ '\'' := by
  unfold goesOn at h
  split at h
  next c rest => exact ⟨c, rest, rfl, by simpa using h⟩
  next => cases h

/-- **What may stand behind a table**: nothing, or something that goes on. -/
def Continues (t : String) : Prop :=
  t = "" ∨ goesOn t.toList = true

theorem continues_keyword {keyword : String} (h : goesOn keyword.toList = true) (t : String) :
    Continues (keyword ++ t) := by
  obtain ⟨c, rest, hchars, hc⟩ := exists_of_goesOn h
  refine .inr ?_
  rw [String.toList_append, hchars]
  rw [hchars] at h
  exact h

theorem Continues.append {t u : String} (ht : Continues t) (hu : Continues u) :
    Continues (t ++ u) := by
  rcases ht with rfl | ht
  · rwa [String.empty_append]
  · exact continues_keyword ht u

theorem continues_clause {keyword : String} (h : goesOn keyword.toList = true)
    (separator : String) (parts : List String) : Continues (clause keyword separator parts) := by
  rw [clause]
  split
  · exact .inl rfl
  · exact continues_keyword h _

/-- Behind the table a statement ends or goes on. -/
theorem continues_remainder (s : Select) : Continues s.remainder := by
  have hlimit : Continues (limitClause s.limit) := by
    cases s.limit with
    | none => exact .inl rfl
    | some n => exact continues_keyword (by decide) _
  exact (((continues_clause (by decide) " AND " s.filters).append
    (continues_clause (by decide) ", " s.groupBy)).append
    (continues_clause (by decide) ", " s.orderBy)).append hlimit

/-- So does what is left of it. -/
theorem bare_eq_of_continues {t : String} (h : Continues t) (hne : t ≠ "") :
    ∃ c rest, bare t = ' ' :: c :: rest ∧ Text.isBlank c = false := by
  obtain ⟨c, rest, hchars, hc, hquote⟩ := exists_of_goesOn (h.resolve_left hne)
  refine ⟨c, stripLiterals rest, ?_, hc⟩
  rw [bare, hchars, stripLiterals, stripOutside_cons_of_ne (by decide),
    stripOutside_cons_of_ne hquote]
  rfl

/-- What is left of a statement begins with `SELECT`. -/
theorem exists_bare_lead (s : Select) : ∃ rest, bare s.lead = "SELECT ".toList ++ rest := by
  refine ⟨bare (columnList s.columns ++ " FROM"), ?_⟩
  rw [bare, lead, String.append_assoc, String.toList_append, stripLiterals_append (by decide), bare]

/-- It does so without the white space around it. -/
theorem select_isPrefix (hlead : Sealed s.lead) (hquote : '\'' ∉ s.table.toList) :
    "SELECT".toList <+: Text.upper (Text.trim (bare s.text)) := by
  obtain ⟨rest, hrest⟩ := s.exists_bare_lead
  have hselect : bare s.text = 'S' :: "ELEC".toList ++ 'T' :: (' ' :: rest
      ++ ' ' :: (s.table.toList ++ bare s.remainder)) := by
    rw [bare_text hlead hquote, hrest]
    simp
  obtain ⟨rest', htrim⟩ : ∃ rest', Text.trim (bare s.text) = 'S' :: "ELEC".toList ++ 'T' :: rest' :=
    hselect ▸ Text.exists_trim_eq rfl rfl _ _
  rw [htrim]
  exact ⟨Text.upper rest', rfl⟩

/-- There is no semicolon in it, not even at its end. -/
theorem oneStatement_bare_text (h : s.Alike s) (hquote : '\'' ∉ s.table.toList)
    (hsemicolon : ';' ∉ s.table.toList) : OneStatement (Text.trim (bare s.text)) := by
  have hnone : ';' ∉ bare s.text := by
    rw [bare_text h.lead.sealedLeft hquote]
    simp [hsemicolon, h.lead.calm.noSemicolon, h.remainder.alike.calm.noSemicolon]
  exact ⟨_, [], (List.append_nil _).symm, fun hmem => hnone ((Text.trim_isInfix _).subset hmem),
    by simp⟩

/-- **The guard has keywords only to look for** in a statement. -/
theorem refusal?_text_eq_none_iff_stands (h : s.Alike s) (htable : isTableName s.table = true) :
    refusal? s.text.toList = none
      ↔ ∀ keyword ∈ keywords, ¬ Stands keyword (Text.trim (bare s.text)) := by
  have hquote : '\'' ∉ s.table.toList := not_mem_of_isTableName htable (by decide)
  have hbegins := select_isPrefix h.lead.sealedLeft hquote
  have hsingle := oneStatement_bare_text h hquote (not_mem_of_isTableName htable (by decide))
  rw [refusal?_eq_none_iff, keywords]
  simp only [List.forall_mem_cons]
  exact ⟨fun hlooks => ⟨hlooks.noInto, hlooks.noFormat, by simp⟩,
    fun ⟨hinto, hformat, _⟩ => ⟨.inl hbegins, hsingle, hinto, hformat⟩⟩

/-- **A table with the name of a keyword stands between blanks** where the statement
goes on behind it. -/
theorem stands_table (h : s.Alike s) (hquote : '\'' ∉ s.table.toList) (hend : s.remainder ≠ "") :
    Stands (Text.upper s.table.toList) (Text.trim (bare s.text)) := by
  obtain ⟨front, hfront⟩ := s.exists_bare_lead
  obtain ⟨c, rest, hrest, hc⟩ := bare_eq_of_continues s.continues_remainder hend
  have hselect : bare s.text = 'S' :: ("ELECT ".toList ++ front
      ++ ' ' :: (s.table.toList ++ [' '])) ++ c :: rest := by
    rw [bare_text h.lead.sealedLeft hquote, hfront, hrest]
    simp
  obtain ⟨rest', htrim⟩ : ∃ rest', Text.trim (bare s.text) = 'S' :: ("ELECT ".toList ++ front
      ++ ' ' :: (s.table.toList ++ [' '])) ++ c :: rest' :=
    hselect ▸ Text.exists_trim_eq rfl hc _ _
  refine ⟨"SELECT ".toList ++ front, s.table.toList, c :: rest', ?_, rfl⟩
  rw [htrim]
  simp

/-- **The guard lets a statement through** unless its table is a keyword and the
statement goes on behind it. -/
theorem refusal?_text_eq_none_iff (h : s.Alike s) (htable : isTableName s.table = true) :
    refusal? s.text.toList = none
      ↔ Text.upper s.table.toList ∉ keywords ∨ s.remainder = "" := by
  have hquote : '\'' ∉ s.table.toList := not_mem_of_isTableName htable (by decide)
  have hblank : ' ' ∉ s.table.toList := not_mem_of_isTableName htable (by decide)
  have hbare := bare_text h.lead.sealedLeft hquote
  have hstands {keyword : List Char} (hk : Stands keyword (Text.trim (bare s.text))) :
      Stands keyword (bare s.text) := hk.of_isInfix (Text.trim_isInfix _)
  rw [refusal?_text_eq_none_iff_stands h htable]
  by_cases hend : s.remainder = ""
  · -- the table is the last piece, and no blank follows it
    refine iff_of_true (fun keyword hkeyword hk => ?_) (.inr hend)
    have hnothing : bare "" = [] := rfl
    rw [hend, hnothing, List.append_nil] at hbare
    exact not_stands_of_quiet_append hkeyword h.lead.calm.quiet hblank (hbare ▸ hstands hk)
  · -- the table is a piece of its own, and on either side of it no piece is a keyword
    rw [or_iff_left hend]
    refine ⟨fun hnone hkeyword => hnone _ hkeyword (stands_table h hquote hend),
      fun hother keyword hkeyword hk => not_stands_of_quiet hkeyword ?_ (hstands hk)⟩
    obtain ⟨c, rest, hrest, -⟩ := bare_eq_of_continues s.continues_remainder hend
    have hbehind : Quiet ([] ++ ' ' :: c :: rest) := hrest ▸ h.remainder.alike.calm.quiet
    rw [hbare, hrest, quiet_append_blank, quiet_append_blank, quiet_iff_of_not_mem hblank]
    exact ⟨h.lead.calm.quiet, hother, (quiet_append_blank.mp hbehind).2⟩

/-- Nothing stands behind a table if every clause is left out. -/
theorem remainder_eq_empty_iff {s : Select} :
    s.remainder = "" ↔ s.filters = [] ∧ s.groupBy = [] ∧ s.orderBy = [] ∧ s.limit = none := by
  have hclause {keyword separator : String} (hkeyword : keyword ≠ "") {parts : List String} :
      clause keyword separator parts = "" ↔ parts = [] := by
    cases parts with
    | nil => exact iff_of_true rfl rfl
    | cons part parts => simp [clause, hkeyword]
  have hlimit : limitClause s.limit = "" ↔ s.limit = none := by
    cases s.limit <;> simp [limitClause]
  rw [remainder, String.append_eq_empty_iff, String.append_eq_empty_iff,
    String.append_eq_empty_iff, hclause (by decide), hclause (by decide), hclause (by decide),
    hlimit, and_assoc, and_assoc]

end Select

theorem groupAliases_eq_nil_iff {plan : Plan} :
    groupAliases plan = [] ↔ plan.bucket = none ∧ plan.groupBy = [] := by
  cases hbucket : plan.bucket <;> simp [groupAliases, hbucket]

theorem planOrder_eq_nil_iff {plan : Plan} :
    planOrder plan = [] ↔ plan.order = .byGroup ∧ groupAliases plan = [] := by
  cases horder : plan.order <;> simp [planOrder, horder]

/-- Only the selection of every view adds no condition. -/
theorem filters_planSelect_eq_nil_iff (plan : Plan) (s : Selection) (table : String) :
    (planSelect plan s table).filters = [] ↔ s = .all := by
  cases s with
  | all => exact iff_of_true rfl rfl
  | criterion | and | or | not => exact iff_of_false nofun nofun

/-- **A plan ends with its table** where its statement does. -/
theorem remainder_planSelect_eq_empty_iff {plan : Plan} {s : Selection}
    (h : plan.predicate.check = .ok s) (table : String) :
    (planSelect plan s table).remainder = "" ↔ plan.EndsWithTable := by
  have hgroupBy : (planSelect plan s table).groupBy = groupAliases plan := by cases s <;> rfl
  have horderBy : (planSelect plan s table).orderBy = planOrder plan := by cases s <;> rfl
  have hlimit : (planSelect plan s table).limit = plan.limit := by cases s <;> rfl
  have hpredicate : s = .all ↔ plan.predicate = .all := by
    rw [← Predicate.check_eq_all_iff, h, Except.ok.injEq]
  rw [Select.remainder_eq_empty_iff, filters_planSelect_eq_nil_iff, hpredicate, hgroupBy, horderBy,
    hlimit, planOrder_eq_nil_iff, groupAliases_eq_nil_iff]
  constructor
  · rintro ⟨hpredicate, ⟨hbucket, hgroups⟩, ⟨horder, -⟩, hnone⟩
    exact ⟨hpredicate, hbucket, hgroups, horder, hnone⟩
  · rintro ⟨hpredicate, hbucket, hgroups, horder, hnone⟩
    exact ⟨hpredicate, ⟨hbucket, hgroups⟩, ⟨horder, hbucket, hgroups⟩, hnone⟩

/-- **The guard lets the statements of plans through**, unless the table has the name
of a keyword and the statement goes on behind it. -/
theorem planText_passes_iff {plan : Plan} {table : String} (htable : isTableName table = true)
    {s : Selection} (hcheck : plan.predicate.check = .ok s) :
    ∃ sql, planText plan table = .ok sql
      ∧ (refusal? sql.toList = none
        ↔ Text.upper table.toList ∉ keywords ∨ plan.EndsWithTable) := by
  -- a plan is itself in other words, so its statement is alike to itself
  obtain ⟨t, ht, hst⟩ := Predicate.follows_check (.refl plan.predicate) s hcheck
  obtain rfl : s = t := Except.ok.inj (hcheck.symm.trans ht)
  have halike : (planSelect plan s table).Alike (planSelect plan s table) :=
    alike_planSelect plan plan.predicate table hst
  have hname : (planSelect plan s table).table = table :=
    (table_planSelect plan s table).trans (table_eq_self htable)
  have hpasses := Select.refusal?_text_eq_none_iff halike (hname.symm ▸ htable)
  rw [hname, remainder_planSelect_eq_empty_iff hcheck] at hpasses
  exact ⟨_, planText_eq hcheck table, hpasses⟩

/-- The viewers with keywords in their names, week by week, by the number of blogs. -/
def keywordsPlan : Plan :=
  { predicate := .leaf ⟨"viewer_user", .contains, .str "' INTO \\' FORMAT ;"⟩
    bucket := some .week
    groupBy := [.viewerUser]
    aggregates := [.distinct .blogId]
    order := .byValue 0
    limit := none }

/-- With its database in front the table may even be a keyword, and so may the
database. -/
theorem planText_passes_iff_qualifiedTable :
    ∃ sql, planText keywordsPlan "format.into" = .ok sql ∧ refusal? sql.toList = none := by
  have htable : isTableName "format.into" = true := by decide
  have hcheck : keywordsPlan.predicate.check = .ok _ := rfl
  obtain ⟨sql, hsql, hpasses⟩ := planText_passes_iff htable hcheck
  exact ⟨sql, hsql, hpasses.mpr (.inl (by decide))⟩

/-- **The guard blocks a statement of the program's own** where the table is called
`into`, which is accepted as the name of a table. -/
theorem planText_into_refused :
    isTableName "into" = true
      ∧ planText { Plan.about .all with aggregates := [.count], limit := some 10 } "into"
        = .ok "SELECT COUNT(*) AS v0 FROM into LIMIT 10"
      ∧ refusal? "SELECT COUNT(*) AS v0 FROM into LIMIT 10".toList = some .selectInto :=
  ⟨by decide, rfl, by decide⟩

end Sql

end Readership

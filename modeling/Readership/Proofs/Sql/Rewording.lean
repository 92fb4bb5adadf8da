import Readership.Plan.Basic
import Readership.Proofs.Filter.Truth
import Readership.Proofs.Sql.Rendering

/-!
# A plan in other words

What a caller writes into a filter may change what is found, and nothing else. A
plan is another one in other words if the two differ only in the texts that text
fields are compared with and in the texts that are searched for
(`Plan.Reworded`). Such words may be anything: empty, full of quotes and
backslashes, a statement of their own.

Two things follow. If a plan passes the check in some words, it does so in any
(`Predicate.follows_check`), and becomes the same selection but for its texts. And
the two statements are alike, fragment by fragment, since any two literals are
(`Sql.alike_selection`): outside of literals they are the same to the letter, for
the guard, which takes out literals in its own way, and for a server, which reads
by the rules of SQL (`Sql.planText_of_reworded`).
-/

namespace Readership

/-! ## Rewording -/

/-- **Two texts for one.** A value reworded is another text if it is a text, and the
same otherwise. -/
inductive FieldValue.Reworded : FieldValue → FieldValue → Prop where
  | refl (v : FieldValue) : Reworded v v
  | text (s t : String) : Reworded (.text s) (.text t)

/-- A test reworded has its literals reworded and searches for another text. -/
inductive Test.Reworded : Test → Test → Prop where
  | eq {v w : FieldValue} : v.Reworded w → Reworded (.eq v) (.eq w)
  | ne {v w : FieldValue} : v.Reworded w → Reworded (.ne v) (.ne w)
  | gt {v w : FieldValue} : v.Reworded w → Reworded (.gt v) (.gt w)
  | gte {v w : FieldValue} : v.Reworded w → Reworded (.gte v) (.gte w)
  | lt {v w : FieldValue} : v.Reworded w → Reworded (.lt v) (.lt w)
  | lte {v w : FieldValue} : v.Reworded w → Reworded (.lte v) (.lte w)
  | isIn {vs ws : List FieldValue} :
    List.Forall₂ FieldValue.Reworded vs ws → Reworded (.isIn vs) (.isIn ws)
  | contains (s t : String) : Reworded (.contains s) (.contains t)

/-- A selection reworded has its tests reworded. -/
inductive Selection.Reworded : Selection → Selection → Prop where
  | all : Reworded .all .all
  | criterion {k l : Criterion} : k.field = l.field → k.test.Reworded l.test →
    Reworded (.criterion k) (.criterion l)
  | and {ss ts : List Selection} : ss.length = ts.length →
    (∀ {s t}, (s, t) ∈ ss.zip ts → Reworded s t) → Reworded (.and ss) (.and ts)
  | or {ss ts : List Selection} : ss.length = ts.length →
    (∀ {s t}, (s, t) ∈ ss.zip ts → Reworded s t) → Reworded (.or ss) (.or ts)
  | not {s t : Selection} : Reworded s t → Reworded (.not s) (.not t)

/-- **Two literals that differ in what they say only.** They are the same, or scalars
that are compared with the text of a field and so are read as texts. -/
def Field.RewordsAt (path : String) (a b : Json) : Prop :=
  a = b ∨ ∃ f, parse path = .ok f ∧ f.kind = .text
    ∧ (∃ s, scalarText? a = some s) ∧ ∃ t, scalarText? b = some t

/-- **A condition in other words**, about the same field and by the same operator. A
list is reworded item by item, and what is searched for is a text whatever the
field. -/
def Condition.Reworded (c d : Condition) : Prop :=
  c.field = d.field ∧ c.operator = d.operator ∧ (c.value = d.value ∨
    match c.operator with
    | .isIn => ∃ items items', c.value = .arr items ∧ d.value = .arr items'
      ∧ List.Forall₂ (Field.RewordsAt c.field) items items'
    | .contains =>
      (∃ s, Field.scalarText? c.value = some s) ∧ ∃ t, Field.scalarText? d.value = some t
    | _ => Field.RewordsAt c.field c.value d.value)

/-- **A predicate in other words**: the same but for the words of its conditions. -/
inductive Predicate.Reworded : Predicate → Predicate → Prop where
  | all : Reworded .all .all
  | leaf {c d : Condition} : c.Reworded d → Reworded (.leaf c) (.leaf d)
  | and {ps qs : List Predicate} : ps.length = qs.length →
    (∀ {p q}, (p, q) ∈ ps.zip qs → Reworded p q) → Reworded (.and ps) (.and qs)
  | or {ps qs : List Predicate} : ps.length = qs.length →
    (∀ {p q}, (p, q) ∈ ps.zip qs → Reworded p q) → Reworded (.or ps) (.or qs)
  | not {p q : Predicate} : Reworded p q → Reworded (.not p) (.not q)

/-- **A plan in other words.** -/
def Plan.Reworded (plan plan' : Plan) : Prop :=
  ∃ p, plan.predicate.Reworded p ∧ plan' = { plan with predicate := p }

theorem Test.Reworded.refl (t : Test) : t.Reworded t := by
  cases t with
  | eq v => exact .eq (.refl v)
  | ne v => exact .ne (.refl v)
  | gt v => exact .gt (.refl v)
  | gte v => exact .gte (.refl v)
  | lt v => exact .lt (.refl v)
  | lte v => exact .lte (.refl v)
  | isIn vs => exact .isIn (List.forall₂_same.mpr fun v _ => .refl v)
  | contains s => exact .contains s s

/-- A predicate is itself in other words. -/
theorem Predicate.Reworded.refl (p : Predicate) : p.Reworded p := by
  have hsame {parts : List Predicate} (ih : ∀ p ∈ parts, p.Reworded p) {p q : Predicate}
      (hpq : (p, q) ∈ parts.zip parts) : p.Reworded q :=
    (List.forall₂_iff_zip.mp (List.forall₂_same.mpr ih)).2 hpq
  induction p using Predicate.inductionOnParts with
  | all => exact .all
  | leaf c => exact .leaf ⟨rfl, rfl, .inl rfl⟩
  | and parts ih => exact .and rfl (hsame ih)
  | or parts ih => exact .or rfl (hsame ih)
  | not part ih => exact .not ih

/-- There are nulls where there were. -/
theorem FieldValue.Reworded.isNull_eq {v w : FieldValue} (h : v.Reworded w) :
    v.isNull = w.isNull := by
  cases h <;> rfl

/-! ## Checking -/

open Outcome

/-- A scalar is a literal of a text field. -/
theorem Field.coerce_of_scalarText? {f : Field} (hkind : f.kind = .text) {literal : Json}
    {s : String} (h : scalarText? literal = some s) : f.coerce literal = .ok (.text s) := by
  unfold coerce
  rw [hkind]
  cases literal with
  | null => cases h
  | _ => simp only [h]

/-- **A literal in other words** has a value in other words. -/
theorem Field.follows_coerce {path : String} {f : Field} (hf : parse path = .ok f)
    {a b : Json} (h : RewordsAt path a b) :
    Follows FieldValue.Reworded (f.coerce a) (f.coerce b) := by
  rcases h with rfl | ⟨g, hg, hkind, ⟨s, hs⟩, t, ht⟩
  · exact fun v hv => ⟨v, hv, .refl v⟩
  · obtain rfl : f = g := Except.ok.inj (hf.symm.trans hg)
    rw [coerce_of_scalarText? hkind hs, coerce_of_scalarText? hkind ht]
    exact .ok (.text s t)

namespace Condition

variable {c d : Condition} {f : Field}

/-- A literal of an order stays one. -/
theorem follows_ordered (hf : Field.parse c.field = .ok f)
    (h : Field.RewordsAt c.field c.value d.value) :
    Follows FieldValue.Reworded (c.ordered f) (d.ordered f) := by
  refine (Field.follows_coerce hf h).bind fun {v w} _ hvw => ?_
  rw [← hvw.isNull_eq]
  split
  · exact fun _ hnull => nomatch hnull
  · exact .ok hvw

/-- **A condition in other words makes a test in other words.** -/
theorem follows_testOf (hf : Field.parse c.field = .ok f) (h : c.Reworded d) :
    Follows Test.Reworded (c.testOf f) (d.testOf f) := by
  obtain ⟨path, op, a⟩ := c
  obtain ⟨path', op', b⟩ := d
  obtain ⟨rfl, rfl, rfl | hvalue⟩ := h
  · exact fun t ht => ⟨t, ht, .refl t⟩
  cases op with
  | eq => exact (Field.follows_coerce hf hvalue).map .eq
  | ne => exact (Field.follows_coerce hf hvalue).map .ne
  | gt => exact (follows_ordered hf hvalue).map .gt
  | gte => exact (follows_ordered hf hvalue).map .gte
  | lt => exact (follows_ordered hf hvalue).map .lt
  | lte => exact (follows_ordered hf hvalue).map .lte
  | isIn =>
    obtain ⟨items, items', ha, hb, hitems⟩ := hvalue
    obtain rfl : a = .arr items := ha
    obtain rfl : b = .arr items' := hb
    exact (Follows.mapM (hitems.imp fun _ _ => Field.follows_coerce hf)).map .isIn
  | contains =>
    obtain ⟨⟨s, hs⟩, t, ht⟩ := hvalue
    simp only [testOf, hs, ht]
    exact .ok (.contains _ _)

/-- **A condition in other words passes the check** if the condition does. -/
theorem follows_check (h : c.Reworded d) :
    Follows (fun k l => k.field = l.field ∧ k.test.Reworded l.test) c.check d.check := by
  rw [check, check, ← h.1]
  refine Follows.bind (R := Eq) (fun f hf => ⟨f, hf, rfl⟩) fun {f g} hf hfg => ?_
  subst hfg
  exact (follows_testOf hf h).bind fun _ htu => .ok ⟨rfl, htu⟩

end Condition

namespace Predicate

/-- **A predicate in other words passes the check** if the predicate does, and becomes
the selection in other words. -/
theorem follows_check {p q : Predicate} (h : p.Reworded q) :
    Follows Selection.Reworded p.check q.check := by
  have hparts {ps qs : List Predicate} (hlength : ps.length = qs.length)
      (ih : ∀ {p q}, (p, q) ∈ ps.zip qs → Follows Selection.Reworded p.check q.check) :
      Follows (List.Forall₂ Selection.Reworded) (checkAll ps) (checkAll qs) := by
    rw [checkAll_eq_mapM, checkAll_eq_mapM]
    exact Follows.mapM (List.forall₂_iff_zip.mpr ⟨hlength, ih⟩)
  induction h with
  | all =>
    rw [check_all]
    exact .ok .all
  | leaf hcd =>
    rw [check_leaf, check_leaf]
    exact (Condition.follows_check hcd).map fun hkl => .criterion hkl.1 hkl.2
  | and hlength _ ih =>
    rw [check_and, check_and]
    exact (hparts hlength ih).map fun h => .and h.length_eq (List.forall₂_iff_zip.mp h).2
  | or hlength _ ih =>
    rw [check_or, check_or]
    exact (hparts hlength ih).map fun h => .or h.length_eq (List.forall₂_iff_zip.mp h).2
  | not _ ih =>
    rw [check_not, check_not]
    exact ih.map .not

end Predicate

/-! ## Writing -/

namespace Sql

variable {f : Field}

/-- **Values in other words** are alike as literals. -/
theorem alike_literal {v w : FieldValue} (h : v.Reworded w) : Alike (literal v) (literal w) := by
  cases h with
  | refl => exact alike_literal_self v
  | text s t => exact alike_quoted s t

theorem alike_requirePresent (f : Field) {a b : String} (h : Alike a b) :
    Alike (requirePresent f a) (requirePresent f b) := by
  rw [requirePresent, requirePresent]
  split
  · exact (((alike_column f).after (by decide)).link (by decide) h).before (by decide)
  · exact h

theorem alike_allowAbsent (f : Field) {a b : String} (h : Alike a b) :
    Alike (allowAbsent f a) (allowAbsent f b) := by
  rw [allowAbsent, allowAbsent]
  split
  · exact (((alike_column f).after (by decide)).link (by decide) h).before (by decide)
  · exact h

theorem alike_comparison (f : Field) (op : Relation) {v w : FieldValue} (h : v.Reworded w) :
    Alike (comparison f op.spelling v) (comparison f op.spelling w) := by
  have hspelling : Alike op.spelling op.spelling := by
    cases op <;> exact Inert.alike (by decide)
  exact ((alike_column f).link (by decide) hspelling).link (by decide) (alike_literal h)

/-- A list in other words has its nulls in the same places. -/
theorem reworded_present {vs ws : List FieldValue} (h : List.Forall₂ FieldValue.Reworded vs ws) :
    List.Forall₂ FieldValue.Reworded (vs.filter (!·.isNull)) (ws.filter (!·.isNull)) := by
  refine List.rel_filter (fun v w hvw => ?_) h
  show (!v.isNull) = true ↔ (!w.isNull) = true
  rw [hvw.isNull_eq]

/-- **Tests in other words are alike.** -/
theorem alike_criterion (f : Field) {t u : Test} (h : t.Reworded u) :
    Alike (criterion ⟨f, t⟩) (criterion ⟨f, u⟩) := by
  cases h with
  | @eq v w h =>
    cases h with
    | refl =>
      cases v with
      | null => exact (alike_column f).before (by decide)
      | _ => exact alike_requirePresent f (alike_comparison f .eq (.refl _))
    | text s t => exact alike_requirePresent f (alike_comparison f .eq (.text s t))
  | @ne v w h =>
    cases h with
    | refl =>
      cases v with
      | null => exact (alike_column f).before (by decide)
      | _ => exact alike_allowAbsent f (alike_comparison f .ne (.refl _))
    | text s t => exact alike_allowAbsent f (alike_comparison f .ne (.text s t))
  | gt h => exact alike_requirePresent f (alike_comparison f .gt h)
  | gte h => exact alike_requirePresent f (alike_comparison f .ge h)
  | lt h => exact alike_requirePresent f (alike_comparison f .lt h)
  | lte h => exact alike_requirePresent f (alike_comparison f .le h)
  | @isIn vs ws h =>
    -- nulls are in the same places, so if no other item is left on one side, none is on the other
    have hpresent := reworded_present h
    unfold criterion
    simp only
    generalize vs.filter (!·.isNull) = vs' at hpresent ⊢
    generalize ws.filter (!·.isNull) = ws' at hpresent ⊢
    cases hpresent with
    | nil => exact (Inert.alike (by decide) : Alike "0" "0")
    | cons hhead htail =>
      have hlist := alike_joinWith_map (R := FieldValue.Reworded) (k := ", ") (by decide)
        alike_literal (.cons hhead htail)
      exact alike_requirePresent f (((alike_column f).link (by decide) hlist).before (by decide))
  | contains s t =>
    exact alike_requirePresent f ((((alike_column f).after (by decide)).link (by decide)
      (alike_quoted s t)).before (by decide))

/-- **Selections in other words are alike.** -/
theorem alike_selection {s t : Selection} (h : s.Reworded t) :
    Alike (selection s) (selection t) := by
  induction h with
  | all => exact Inert.alike (by decide)
  | @criterion k l hfield htest =>
    obtain ⟨f, t⟩ := k
    obtain ⟨g, u⟩ := l
    obtain rfl : f = g := hfield
    rw [selection, selection]
    exact alike_criterion f htest
  | @and ss ts hlength _ ih =>
    have hparts := List.forall₂_iff_zip.mpr ⟨hlength, ih⟩
    cases hparts with
    | nil => exact Inert.alike (by decide)
    | cons hhead htail =>
      rw [selection, selection, selections_eq_map, selections_eq_map]
      exact ((alike_joinWith_map (by decide) id (.cons hhead htail)).after
        (by decide)).before (by decide)
  | @or ss ts hlength _ ih =>
    have hparts := List.forall₂_iff_zip.mpr ⟨hlength, ih⟩
    cases hparts with
    | nil => exact Inert.alike (by decide)
    | cons hhead htail =>
      rw [selection, selection, selections_eq_map, selections_eq_map]
      exact ((alike_joinWith_map (by decide) id (.cons hhead htail)).after
        (by decide)).before (by decide)
  | not _ ih =>
    rw [selection, selection]
    exact (ih.after (by decide)).before (by decide)

/-- A plan whose predicate passes the check has a statement. -/
theorem planText_eq {plan : Plan} {s : Selection} (h : plan.predicate.check = .ok s)
    (table : String) : planText plan table = .ok (planSelect plan s table).text := by
  rw [planText, h]
  rfl

theorem table_planSelect (plan : Plan) (s : Selection) (table : String) :
    (planSelect plan s table).table = Sql.table table := by
  cases s <;> rfl

/-- **The statements of a plan** for selections in other words are alike. -/
theorem alike_planSelect (plan : Plan) (p : Predicate) (table : String) {s t : Selection}
    (h : s.Reworded t) :
    (planSelect plan s table).Alike (planSelect { plan with predicate := p } t table) := by
  have hself {parts : List String} (hparts : ∀ x ∈ parts, Alike x x) :
      List.Forall₂ Alike parts parts := List.forall₂_same.mpr hparts
  have hcolumns : ∀ x ∈ (planColumns plan).map fun c => Select.aliased c.1 c.2, Alike x x := by
    intro x hx
    obtain ⟨c, hc, rfl⟩ := List.mem_map.mp hx
    exact alike_planColumns plan c hc
  have hplan {filters filters' : List String} (hfilters : List.Forall₂ Alike filters filters') :
      (Select.mk (Sql.table table) ((planColumns plan).map fun c => Select.aliased c.1 c.2) filters
        (groupAliases plan) (planOrder plan) plan.limit).Alike
      (Select.mk (Sql.table table) ((planColumns plan).map fun c => Select.aliased c.1 c.2) filters'
        (groupAliases plan) (planOrder plan) plan.limit) :=
    ⟨rfl, hself hcolumns, hfilters, hself (alike_groupAliases plan),
      hself (alike_planOrder plan), rfl⟩
  have hwritten := alike_selection h
  cases h with
  | all => exact hplan .nil
  | criterion | and | or | not => exact hplan (.cons hwritten .nil)

/-! ## Shape -/

/-- The guard looks at nothing but what is left without literals. -/
theorem refusal?_eq_of_bare_eq {a b : String} (h : bare a = bare b) :
    refusal? a.toList = refusal? b.toList := by
  have hguarded : guarded a.toList = guarded b.toList := congrArg Text.trim h
  rw [refusal?, refusal?, hguarded]

/-- **Other words do not change the shape of a statement.** A plan that passes the
check in some words passes it in others, and outside of literals its statement stays
the same to the letter, for the guard as for a server. -/
theorem planText_of_reworded {plan plan' : Plan} {table : String}
    (htable : isTableName table = true) (hplan : plan.Reworded plan') {s : Selection}
    (hcheck : plan.predicate.check = .ok s) :
    ∃ sql sql', planText plan table = .ok sql ∧ planText plan' table = .ok sql'
      ∧ stripLiterals sql.toList = stripLiterals sql'.toList
      ∧ outline sql.toList = outline sql'.toList
      ∧ refusal? sql.toList = refusal? sql'.toList := by
  obtain ⟨p, hp, rfl⟩ := hplan
  obtain ⟨t, ht, hst⟩ := Predicate.follows_check hp s hcheck
  have halike := alike_planSelect plan p table hst
  have hname := (table_planSelect plan s table).trans (table_eq_self htable)
  have hquote : '\'' ∉ (planSelect plan s table).table.toList := by
    rw [hname]
    exact not_mem_of_isTableName htable (by decide)
  have hbare := halike.bare_text_eq hquote
  have honly := halike.onlyLiterals_bare_text hquote (by
    rw [hname]
    exact onlyLiterals_of_isTableName htable)
  refine ⟨_, _, planText_eq hcheck table, planText_eq ht table, hbare, ?_, refusal?_eq_of_bare_eq hbare⟩
  · -- with literals only in what is left, a server reads what the guard does
    have honly' := honly
    rw [hbare] at honly'
    rw [outline_eq_stripLiterals (.inl honly), outline_eq_stripLiterals (.inl honly')]
    exact hbare

/-- Views by title, by viewer or without one, and by a piece of the owner. -/
def wordsPredicate (title viewer piece : String) : Predicate :=
  .or [.leaf ⟨"blog.title", .ne, .str title⟩,
    .not (.leaf ⟨"viewer_user", .isIn, .arr [.str viewer, .null]⟩),
    .leaf ⟨"blog.user", .contains, .str piece⟩]

/-- Quotes, backslashes, semicolons and keywords stay inside the literals. -/
theorem planText_of_reworded_quotes :
    ∃ sql sql',
      planText (.about (wordsPredicate "Reading" "" "a")) "site.blog_views" = .ok sql
      ∧ planText (.about (wordsPredicate "'; DROP TABLE t --" "\\" "\\' INTO /*")) "site.blog_views"
        = .ok sql'
      ∧ stripLiterals sql.toList = stripLiterals sql'.toList
      ∧ outline sql.toList = outline sql'.toList
      ∧ refusal? sql.toList = refusal? sql'.toList := by
  have hscalar (s : String) : ∃ t, Field.scalarText? (.str s) = some t := ⟨s, rfl⟩
  have hblogTitle : Field.parse "blog.title" = .ok .blogTitle := rfl
  have hviewerUser : Field.parse "viewer_user" = .ok .viewerUser := rfl
  have htitle (s t : String) : Condition.Reworded ⟨"blog.title", .ne, .str s⟩
      ⟨"blog.title", .ne, .str t⟩ :=
    ⟨rfl, rfl, .inr (.inr ⟨.blogTitle, hblogTitle, rfl, hscalar s, hscalar t⟩)⟩
  have hviewer (s t : String) : Condition.Reworded ⟨"viewer_user", .isIn, .arr [.str s, .null]⟩
      ⟨"viewer_user", .isIn, .arr [.str t, .null]⟩ :=
    ⟨rfl, rfl, .inr ⟨_, _, rfl, rfl, .cons (.inr ⟨.viewerUser, hviewerUser, rfl, hscalar s, hscalar t⟩)
      (.cons (.inl rfl) .nil)⟩⟩
  have hpiece (s t : String) : Condition.Reworded ⟨"blog.user", .contains, .str s⟩
      ⟨"blog.user", .contains, .str t⟩ :=
    ⟨rfl, rfl, .inr ⟨hscalar s, hscalar t⟩⟩
  have hreworded : (Plan.about (wordsPredicate "Reading" "" "a")).Reworded
      (.about (wordsPredicate "'; DROP TABLE t --" "\\" "\\' INTO /*")) := by
    refine ⟨wordsPredicate "'; DROP TABLE t --" "\\" "\\' INTO /*", .or rfl fun hpq => ?_, rfl⟩
    simp only [List.zip_cons_cons, List.zip_nil_right, List.mem_cons, List.not_mem_nil, or_false,
      Prod.mk.injEq] at hpq
    obtain ⟨rfl, rfl⟩ | ⟨rfl, rfl⟩ | ⟨rfl, rfl⟩ := hpq
    · exact .leaf (htitle _ _)
    · exact .not (.leaf (hviewer _ _))
    · exact .leaf (hpiece _ _)
  have hcheck : (Plan.about (wordsPredicate "Reading" "" "a")).predicate.check = .ok _ := rfl
  exact planText_of_reworded (by decide) hreworded hcheck

end Sql

end Readership

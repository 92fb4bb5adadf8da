import Readership.Proofs.Number.Numeral
import Readership.Proofs.Sql.Agreement
import Readership.Proofs.Sql.Fragment
import Readership.Settings.Source
import Readership.Sql.Statement

/-!
# The fragments of a plan

A statement is made of columns, numerals, aliases, functions of these, and
literals, and all of them are alike to themselves (`Sql.alike_literal_self`,
`Sql.alike_planColumns`). Only the name of the table is not known to be: it comes
from outside, and nothing keeps it from being a keyword. So the text of a
statement is taken apart around its table (`Select.text_eq`), into the fragment
that leads to the table and the fragment behind it, and what is left of it is what
is left of these two with the name between them (`Select.bare_text`).
-/

namespace Readership.Sql

/-! ## Numerals -/

/-- Digits are the same in capital letters, and no letters of a keyword. -/
theorem upper_not_mem_keywords_of_isDigit {c : Char} (hc : c.isDigit = true) {piece : List Char}
    (h : c ∈ piece) : Text.upper piece ∉ keywords := by
  have hdigits : ∀ n < 128, (Char.ofNat n).isDigit = true →
      Text.upperChar (Char.ofNat n) = [Char.ofNat n]
        ∧ ∀ keyword ∈ keywords, Char.ofNat n ∉ keyword := by decide
  have hlt : c.toNat < 128 := by
    rw [Char.isDigit, Bool.and_eq_true, decide_eq_true_eq, decide_eq_true_eq] at hc
    exact Nat.lt_of_le_of_lt (UInt32.le_iff_toNat_le.mp hc.2) (by decide)
  have hboth := hdigits c.toNat hlt
  rw [Char.ofNat_toNat] at hboth
  exact upper_not_mem_keywords (hboth hc).1 (hboth hc).2 h

/-- A text without quotes, minus signs and slashes. -/
theorem onlyLiterals_of_not_mem {cs : List Char} (hquotes : '"' ∉ cs ∧ '`' ∉ cs)
    (hmarks : '-' ∉ cs ∧ '/' ∉ cs) : OnlyLiterals cs := by
  refine ⟨hquotes, List.Pairwise.isChain (List.pairwise_of_forall_mem_list fun a ha b _ => ?_)⟩
  constructor
  · rintro ⟨rfl, -⟩
    exact hmarks.1 ha
  · rintro ⟨rfl, -⟩
    exact hmarks.2 ha

theorem not_mem_digits {c : Char} (hc : c.isDigit = false) (n : Nat) : c ∉ Numeral.digits n := by
  intro h
  rw [Numeral.isDigit_of_mem_digits h] at hc
  cases hc

/-- **Digits are calm**, and make what stands in front of them no keyword. -/
theorem calm_append_digits {front : List Char} (honly : OnlyLiterals front)
    (houtside : ';' ∉ front ∧ ' ' ∉ front) (n : Nat) : Calm (front ++ Numeral.digits n) := by
  have hdigits : OnlyLiterals (Numeral.digits n) :=
    onlyLiterals_of_not_mem ⟨not_mem_digits rfl n, not_mem_digits rfl n⟩
      ⟨not_mem_digits rfl n, not_mem_digits rfl n⟩
  refine ⟨honly.append hdigits fun x _ y hy => ?_,
    List.not_mem_append houtside.1 (not_mem_digits rfl n), ?_⟩
  · -- no comment begins in front of a digit
    have hmem := List.mem_of_mem_head? hy
    constructor
    · rintro ⟨-, rfl⟩
      exact not_mem_digits rfl n hmem
    · rintro ⟨-, rfl⟩
      exact not_mem_digits rfl n hmem
  · rw [quiet_iff_of_not_mem (List.not_mem_append houtside.2 (not_mem_digits rfl n))]
    obtain ⟨c, cs, hdigits⟩ := List.exists_cons_of_ne_nil (Numeral.digits_ne_nil n)
    have hmem : c ∈ Numeral.digits n := hdigits ▸ List.mem_cons_self
    exact upper_not_mem_keywords_of_isDigit (Numeral.isDigit_of_mem_digits hmem)
      (List.mem_append_right front hmem)

/-- **A numeral is alike to itself**, with a letter or a sign in front or without. -/
theorem alike_numeral {k : String} (honly : OnlyLiterals k.toList)
    (houtside : ';' ∉ k.toList ∧ ' ' ∉ k.toList) (hquote : '\'' ∉ k.toList) (n : Nat) :
    Alike (k ++ Numeral.ofNat n) (k ++ Numeral.ofNat n) := by
  have htext : (k ++ Numeral.ofNat n).toList = k.toList ++ Numeral.digits n := by
    rw [String.toList_append, Numeral.ofNat, String.toList_ofList]
  refine Inert.alike ⟨?_, ?_⟩
  · rw [htext]
    exact List.not_mem_append hquote (not_mem_digits rfl n)
  · rw [htext]
    exact calm_append_digits honly houtside n

theorem alike_ofNat (n : Nat) : Alike (Numeral.ofNat n) (Numeral.ofNat n) := by
  have h := alike_numeral (k := "") (by decide) (by decide) (by decide) n
  rwa [String.empty_append] at h

theorem alike_ofInt (n : Int) : Alike (Numeral.ofInt n) (Numeral.ofInt n) := by
  cases n with
  | ofNat n => exact alike_ofNat n
  | negSucc n => exact alike_numeral (by decide) (by decide) (by decide) (n + 1)

/-! ## Names and literals -/

theorem alike_column (f : Field) : Alike f.column f.column := by
  cases f <;> exact Inert.alike (by decide)

/-- **An instant is written as a function of two literals**: its date and time, which have no
quote in them, and the zone. -/
theorem exists_literal_instant (t : Instant) :
    ∃ opening separator s,
      (opening, separator) ∈ [("toDateTime(", ", "), ("toDateTime64(", ", 9, ")] ∧
      literal (.instant t) = opening ++ quoted s ++ separator ++ quoted "UTC" ++ ")" := by
  have hutc : quoted "UTC" = "'UTC'" := rfl
  by_cases hnano : t.nano = 0
  · refine ⟨_, _, t.plainText, List.mem_cons_self, ?_⟩
    rw [quoted_of_all_isWritten (Calendar.all_isWritten_plainText t), literal,
      if_neg (not_not.mpr hnano), ← String.toList_inj]
    simp [hutc]
  · refine ⟨_, _, t.fullText, List.mem_cons_of_mem _ List.mem_cons_self, ?_⟩
    rw [quoted_of_all_isWritten (Calendar.all_isWritten_fullText t), literal, if_pos hnano,
      ← String.toList_inj]
    simp [hutc]

/-- **A literal is alike to itself.** -/
theorem alike_literal_self (v : FieldValue) : Alike (literal v) (literal v) := by
  cases v with
  | null => exact Inert.alike (by decide)
  | int n => exact alike_ofInt n
  | text s => exact alike_quoted s s
  | instant t =>
    obtain ⟨opening, separator, s, hmem, htext⟩ := exists_literal_instant t
    have hlinks : ∀ k ∈ [("toDateTime(", ", "), ("toDateTime64(", ", 9, ")],
        Opens k.1 ∧ Links k.2 := by decide
    obtain ⟨hopening, hseparator⟩ := hlinks _ hmem
    -- the zone is a literal as well, and stands behind a link like any other
    rw [htext]
    exact (((alike_quoted s s).after hopening).link hseparator (alike_quoted _ _)).before
      (by decide)

/-! ## Columns -/

/-- The zone of a bucket is a literal. -/
theorem bucketExpression_eq (b : Bucket) (column : String) :
    Select.bucketExpression b column = "toString(" ++ Select.bucketFunction b ++ "(" ++ column
      ++ ", " ++ quoted "UTC" ++ "))" := by
  have hutc : quoted "UTC" = "'UTC'" := rfl
  rw [Select.bucketExpression, ← String.toList_inj]
  simp [hutc]

theorem alike_bucketExpression (b : Bucket) (f : Field) :
    Alike (Select.bucketExpression b f.column) (Select.bucketExpression b f.column) := by
  have hfunction : Alike (Select.bucketFunction b) (Select.bucketFunction b) := by
    cases b <;> exact Inert.alike (by decide)
  rw [bucketExpression_eq]
  exact (((hfunction.after (by decide)).link (by decide) (alike_column f)).link (by decide)
    (alike_quoted _ _)).before (by decide)

theorem alike_aggregate (a : Aggregate) : Alike (aggregate a) (aggregate a) := by
  cases a with
  | count => exact Inert.alike (by decide)
  | distinct f => exact ((alike_column f).after (by decide)).before (by decide)

theorem alike_keyAlias (i : Nat) : Alike (keyAlias i) (keyAlias i) :=
  alike_numeral (by decide) (by decide) (by decide) i

theorem alike_valueAlias (i : Nat) : Alike (valueAlias i) (valueAlias i) :=
  alike_numeral (by decide) (by decide) (by decide) i

theorem alike_aliased {a b c d : String} (h : Alike a b) (h' : Alike c d) :
    Alike (Select.aliased a c) (Select.aliased b d) :=
  h.link (by decide) h'

/-- **The columns of a plan.** -/
theorem alike_planColumns (plan : Plan) :
    ∀ c ∈ planColumns plan, Alike (Select.aliased c.1 c.2) (Select.aliased c.1 c.2) := by
  have hbucket : Alike bucketAlias bucketAlias := Inert.alike (by decide)
  intro c hc
  rw [planColumns, List.mem_append, List.mem_append] at hc
  obtain (hc | hc) | hc := hc
  · obtain ⟨b, -, rfl⟩ := Option.map_eq_some_iff.mp (Option.mem_toList.mp hc)
    exact alike_aliased (alike_bucketExpression b .viewedAt) hbucket
  · obtain ⟨i, hi, rfl⟩ := List.mem_mapIdx.mp hc
    exact alike_aliased (alike_column _) (alike_keyAlias i)
  · obtain ⟨i, hi, rfl⟩ := List.mem_mapIdx.mp hc
    exact alike_aliased (alike_aggregate _) (alike_valueAlias i)

/-- What a plan groups by. -/
theorem alike_groupAliases (plan : Plan) : ∀ g ∈ groupAliases plan, Alike g g := by
  intro g hg
  rw [groupAliases, List.mem_append] at hg
  obtain hg | hg := hg
  · obtain ⟨b, -, rfl⟩ := Option.map_eq_some_iff.mp (Option.mem_toList.mp hg)
    exact Inert.alike (by decide)
  · obtain ⟨i, -, rfl⟩ := List.mem_map.mp hg
    exact alike_keyAlias i

/-- What a plan orders by. -/
theorem alike_planOrder (plan : Plan) : ∀ o ∈ planOrder plan, Alike o o := by
  rw [planOrder]
  split
  · exact alike_groupAliases plan
  · rw [List.forall_mem_cons]
    exact ⟨(alike_valueAlias _).before (by decide), alike_groupAliases plan⟩

/-! ## Statements -/

namespace Select

/-- The columns of a statement, or all of them. -/
def columnList (columns : List String) : String :=
  if columns.isEmpty then "*" else Text.joinWith ", " columns

/-- The clause that limits the rows. -/
def limitClause : Option Nat → String
  | some n => " LIMIT " ++ Numeral.ofNat n
  | none => ""

/-- The beginning of a statement, up to its table. -/
def lead (s : Select) : String :=
  "SELECT " ++ columnList s.columns ++ " FROM"

/-- The end of a statement, behind its table. -/
def remainder (s : Select) : String :=
  clause " WHERE " " AND " s.filters ++ clause " GROUP BY " ", " s.groupBy
    ++ clause " ORDER BY " ", " s.orderBy ++ limitClause s.limit

/-- **A statement around its table.** -/
theorem text_eq (s : Select) : s.text = s.lead ++ " " ++ s.table ++ s.remainder := by
  rw [text, lead, columnList, remainder, ← String.toList_inj]
  cases s.limit <;> simp [limitClause]

/-- **Alike statements**: alike clause by clause. -/
structure Alike (s s' : Select) : Prop where
  table : s.table = s'.table
  columns : List.Forall₂ Sql.Alike s.columns s'.columns
  filters : List.Forall₂ Sql.Alike s.filters s'.filters
  groupBy : List.Forall₂ Sql.Alike s.groupBy s'.groupBy
  orderBy : List.Forall₂ Sql.Alike s.orderBy s'.orderBy
  limit : s.limit = s'.limit

variable {s s' : Select}

/-- **Clauses are alike** if their parts are. -/
theorem alikeBehind_clause {keyword separator : String} (hkeyword : Links keyword)
    (hseparator : Links separator) {as bs : List String} (h : List.Forall₂ Sql.Alike as bs) :
    AlikeBehind (clause keyword separator as) (clause keyword separator bs) := by
  rw [clause, clause]
  cases h with
  | nil => exact alikeBehind_empty
  | cons hhead htail => exact (alike_joinWith hseparator (.cons hhead htail)).behind hkeyword

theorem alikeBehind_limitClause (limit : Option Nat) :
    AlikeBehind (limitClause limit) (limitClause limit) := by
  cases limit with
  | none => exact alikeBehind_empty
  | some n => exact (alike_ofNat n).behind (by decide)

theorem alike_columnList {as bs : List String} (h : List.Forall₂ Sql.Alike as bs) :
    Sql.Alike (columnList as) (columnList bs) := by
  rw [columnList, columnList]
  cases h with
  | nil => exact Inert.alike (by decide)
  | cons hhead htail => exact alike_joinWith (by decide) (.cons hhead htail)

/-- **Alike statements begin alike.** -/
theorem Alike.lead (h : s.Alike s') : Sql.Alike s.lead s'.lead :=
  ((alike_columnList h.columns).after (by decide)).before (by decide)

/-- **Alike statements end alike.** -/
theorem Alike.remainder (h : s.Alike s') : AlikeBehind s.remainder s'.remainder := by
  have hlimit : AlikeBehind (limitClause s.limit) (limitClause s'.limit) :=
    h.limit ▸ alikeBehind_limitClause s.limit
  exact (((alikeBehind_clause (by decide) (by decide) h.filters).append
    (alikeBehind_clause (by decide) (by decide) h.groupBy)).append
    (alikeBehind_clause (by decide) (by decide) h.orderBy)).append hlimit

/-- **What is left of a statement**: what is left before and behind its table, with
the table between. -/
theorem bare_text (hlead : Sealed s.lead) (htable : '\'' ∉ s.table.toList) :
    bare s.text = bare s.lead ++ ' ' :: (s.table.toList ++ bare s.remainder) := by
  have hmiddle : '\'' ∉ (" " ++ s.table).toList := by
    rw [String.toList_append]
    exact List.not_mem_append (by decide) htable
  have htrails : Trails (" " ++ (s.table ++ s.remainder)) := Trails.append (by decide) (by decide) _
  have hbehind : bare (" " ++ s.table ++ s.remainder)
      = (" " ++ s.table).toList ++ bare s.remainder := by
    rw [bare, String.toList_append, stripLiterals_append hmiddle, bare]
  rw [text_eq, String.append_assoc, String.append_assoc, hlead.bare_append htrails.not_quote,
    ← String.append_assoc, hbehind]
  simp

/-- **Of alike statements the same is left.** -/
theorem Alike.bare_text_eq (h : s.Alike s') (htable : '\'' ∉ s.table.toList) :
    bare s.text = bare s'.text := by
  rw [bare_text h.lead.sealedLeft htable, bare_text h.lead.sealedRight (h.table ▸ htable),
    h.lead.same, h.remainder.alike.same, h.table]

/-- **Nothing but literals is quoted in a statement**, if nothing is in its table. -/
theorem Alike.onlyLiterals_bare_text (h : s.Alike s') (hquote : '\'' ∉ s.table.toList)
    (htable : OnlyLiterals s.table.toList) : OnlyLiterals (bare s.text) := by
  have hbehind : OnlyLiterals (s.table.toList ++ bare s.remainder) :=
    htable.append h.remainder.alike.calm.onlyLiterals (h.remainder.left.apart _).noComment
  have hblank : OnlyLiterals (' ' :: (s.table.toList ++ bare s.remainder)) :=
    onlyLiterals_cons.mpr ⟨by decide, fun _ _ => noComment_of_isJoint (.inl rfl), hbehind⟩
  rw [bare_text h.lead.sealedLeft hquote]
  refine h.lead.calm.onlyLiterals.append hblank fun x _ y hy => noComment_of_isJoint (.inr ?_)
  cases hy
  rfl

end Select

/-! ## Tables -/

/-- An identifier is plain. -/
theorem isPlain_of_isIdentifier {part : List Char} (h : isIdentifier part = true) :
    part.isEmpty = false ∧ part.all isPlain = true := by
  cases part with
  | nil => cases h
  | cons c rest =>
    rw [isIdentifier, Bool.and_eq_true] at h
    refine ⟨rfl, ?_⟩
    rw [List.all_cons, Bool.and_eq_true]
    refine ⟨?_, h.2⟩
    have hstart := h.1
    rw [isIdentifierStart, Bool.or_eq_true] at hstart
    rw [isPlain, Char.isAlphanum, Bool.or_eq_true, Bool.or_eq_true]
    exact hstart.imp_left .inl

/-- Between dots, an accepted table has identifiers. -/
theorem isIdentifier_of_isTableName {table : String} (h : isTableName table = true) :
    ∀ part ∈ Text.splitAt '.' table.toList, isIdentifier part = true := by
  rw [isTableName, Bool.and_eq_true] at h
  exact List.all_eq_true.mp h.2

/-- The characters of an accepted table are plain, dots apart. -/
theorem isPlain_of_isTableName {table : String} (h : isTableName table = true) :
    ∀ c ∈ table.toList, isPlain c = true ∨ c = '.' := by
  intro c hc
  by_cases hdot : c = '.'
  · exact .inr hdot
  · obtain ⟨part, hpart, hmem⟩ := Text.exists_mem_splitAt hc hdot
    have hplain := isPlain_of_isIdentifier (isIdentifier_of_isTableName h part hpart)
    exact .inl (List.all_eq_true.mp hplain.2 c hmem)

/-- So no quote, no blank and no semicolon is in it. -/
theorem not_mem_of_isTableName {table : String} (h : isTableName table = true) {c : Char}
    (hc : isPlain c = false ∧ c ≠ '.') : c ∉ table.toList := by
  intro hmem
  rcases isPlain_of_isTableName h c hmem with hplain | hdot
  · rw [hc.1] at hplain
    cases hplain
  · exact hc.2 hdot

theorem onlyLiterals_of_isTableName {table : String} (h : isTableName table = true) :
    OnlyLiterals table.toList :=
  onlyLiterals_of_not_mem
    ⟨not_mem_of_isTableName h (by decide), not_mem_of_isTableName h (by decide)⟩
    ⟨not_mem_of_isTableName h (by decide), not_mem_of_isTableName h (by decide)⟩

theorem dottedChars_eq_intercalate {parts : List (List Char)}
    (h : ∀ part ∈ parts, isIdentifier part = true) :
    dottedChars parts = ['.'].intercalate parts := by
  have hname {part : List Char} (hpart : isIdentifier part = true) : nameChars part = part := by
    obtain ⟨hempty, hplain⟩ := isPlain_of_isIdentifier hpart
    rw [nameChars, hempty, hplain]
    rfl
  induction parts with
  | nil => rfl
  | cons part parts ih =>
    obtain ⟨hpart, hparts⟩ := List.forall_mem_cons.mp h
    cases parts with
    | nil => rw [dottedChars, hname hpart, List.intercalate_singleton]
    | cons next parts =>
      rw [dottedChars, hname hpart, ih hparts, List.intercalate_cons_cons, List.append_assoc]
      rfl

/-- **An accepted table is written as it is.** -/
theorem table_eq_self {table : String} (h : isTableName table = true) :
    Sql.table table = table := by
  rw [Sql.table, dottedChars_eq_intercalate (isIdentifier_of_isTableName h),
    Text.intercalate_splitAt, String.ofList_toList]

end Readership.Sql

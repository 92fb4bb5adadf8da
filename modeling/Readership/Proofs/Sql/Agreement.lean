import Readership.Proofs.Sql.Functions
import Readership.Proofs.Sql.Reading

/-!
# Expressions of selections agree with selections

The text of a selection is read as an expression, and for every record that
conforms the expression is true where the selection holds and false where it does
not. It is never unknown: a test of a column that may be null is guarded
(`means_requirePresent`, `means_allowAbsent`), so of a comparison with null only
that it has *some* truth value matters (`Decides`). Nor is it without a value, as a
checked literal has the kind of its field.
-/

namespace Readership.Sql

variable {functions : Functions} {f : Field}

/-- **The text means a property of records**: it is a test, true where the
property holds and false where it does not. -/
def Means (functions : Functions) (s : String) (p : ViewRecord → Bool) : Prop :=
  ∃ e, IsTest s e ∧
    ∀ r : ViewRecord, r.Conforms → e.eval functions (rowOf r) = some (.ofBool (p r))

/-- **The text decides a property of a field**, where there is a value. Where there
is none it still has some truth value. -/
def Decides (functions : Functions) (f : Field) (s : String) (p : FieldValue → Bool) : Prop :=
  ∃ e, IsTest s e ∧ ∀ r : ViewRecord, r.Conforms → ∃ t,
    e.eval functions (rowOf r) = some t ∧ (r f ≠ .null → t = .ofBool (p (r f)))

/-! ## Literals -/

/-- A text of harmless characters is written as it is. -/
theorem escapeText_eq_self {s : String} (h : ∀ c ∈ s.toList, c ≠ '\\' ∧ c ≠ '\'') :
    escapeText s = s := by
  have hchars : ∀ cs : List Char, (∀ c ∈ cs, c ≠ '\\' ∧ c ≠ '\'') →
      escapeChars '\'' cs = cs := by
    intro cs hcs
    induction cs with
    | nil => rfl
    | cons c cs ih =>
      obtain ⟨⟨hslash, hquote⟩, hrest⟩ := List.forall_mem_cons.mp hcs
      rw [escapeChars_cons, escapeChar_of_ne hslash hquote, ih hrest, List.singleton_append]
  rw [escapeText, hchars s.toList h, String.ofList_toList]

/-- The text of an instant needs no escapes. -/
theorem quoted_of_all_isWritten {s : String} (h : s.toList.all Calendar.isWritten = true) :
    quoted s = "'" ++ s ++ "'" := by
  have hself : escapeText s = s := by
    refine escapeText_eq_self fun c hc => ?_
    have hwritten := List.all_eq_true.mp h c hc
    constructor <;> rintro rfl <;> exact absurd hwritten (by decide)
  rw [quoted, hself]

/-- **A literal is read as its value.** -/
theorem isScalar_literal (h : Documented functions) {v : FieldValue} (hv : f.Admits v) :
    ∃ a, IsScalar (literal v) a ∧ ∀ row, a.eval functions row = some v := by
  cases v with
  | null => exact ⟨_, isScalar_null, fun row => rfl⟩
  | int n => exact ⟨_, isScalar_int n, fun row => rfl⟩
  | text s => exact ⟨_, isScalar_quoted s, fun row => rfl⟩
  | instant t =>
    have hproper : t.Proper := hv.proper rfl
    have hzone := (isScalar_quoted "UTC").singleton
    have hutc : quoted "UTC" = "'UTC'" := rfl
    have hnine : Numeral.ofInt 9 = "9" := rfl
    by_cases hnano : t.nano = 0
    · have htext : literal (.instant t)
          = "toDateTime" ++ "(" ++ (quoted t.plainText ++ ", " ++ quoted "UTC") ++ ")" := by
        rw [quoted_of_all_isWritten (Calendar.all_isWritten_plainText t), literal,
          if_neg (not_not.mpr hnano), ← String.toList_inj]
        simp [hutc]
      have hcall := IsScalars.call (by decide : IsWord "toDateTime")
        (IsScalars.cons (isScalar_quoted t.plainText) hzone)
      refine ⟨_, htext ▸ hcall, fun row => ?_⟩
      simp [Scalar.eval, Scalar.evalAll, h.toDateTime t hproper hnano]
    · have htext : literal (.instant t)
          = "toDateTime64" ++ "("
            ++ (quoted t.fullText ++ ", " ++ (Numeral.ofInt 9 ++ ", " ++ quoted "UTC")) ++ ")" := by
        rw [quoted_of_all_isWritten (Calendar.all_isWritten_fullText t), literal, if_pos hnano,
          ← String.toList_inj]
        simp [hutc, hnine]
      have hcall := IsScalars.call (by decide : IsWord "toDateTime64")
        (IsScalars.cons (isScalar_quoted t.fullText) (IsScalars.cons (isScalar_int 9) hzone))
      refine ⟨_, htext ▸ hcall, fun row => ?_⟩
      simp [Scalar.eval, Scalar.evalAll, h.toDateTime64 t hproper]

/-- **Literals in a row.** -/
theorem isScalars_literals (h : Documented functions) {v : FieldValue} {vs : List FieldValue}
    (hvs : ∀ w ∈ v :: vs, f.Admits w) :
    ∃ list, IsScalars (Text.joinWith ", " ((v :: vs).map literal)) list ∧
      ∀ row, Scalar.evalAll functions row list = some (v :: vs) := by
  induction vs generalizing v with
  | nil =>
    obtain ⟨a, ha, heval⟩ := isScalar_literal h (hvs v List.mem_cons_self)
    exact ⟨[a], ha.singleton, fun row => by simp [Scalar.evalAll, heval]⟩
  | cons w vs ih =>
    obtain ⟨hv, hrest⟩ := List.forall_mem_cons.mp hvs
    obtain ⟨a, ha, heval⟩ := isScalar_literal h hv
    obtain ⟨list, hlist, hevals⟩ := ih hrest
    exact ⟨a :: list, IsScalars.cons ha hlist,
      fun row => by simp [Scalar.evalAll, heval, hevals]⟩

/-- A column is read as the value of its field. -/
theorem eval_column (r : ViewRecord) (f : Field) :
    (Scalar.column f.column).eval functions (rowOf r) = some (r f) := by
  rw [Scalar.eval, rowOf_column]

theorem isScalar_field (f : Field) : IsScalar f.column (.column f.column) :=
  isScalar_column (isWord_column f)

/-! ## Clauses -/

/-- **A relation to a value** is unknown of null and known of values of one kind. -/
theorem exists_between (op : Relation) {w v : FieldValue} (hv : v ≠ .null)
    (hw : w = .null ∨ w.kind? = v.kind?) :
    ∃ t, op.between w v = some t ∧
      (w ≠ .null → ∃ o, w.compare? v = some o ∧ t = .ofBool (op.accepts o)) := by
  by_cases hnull : w = .null
  · refine ⟨.unknown, ?_, fun hne => absurd hnull hne⟩
    rw [hnull]
    rfl
  · obtain ⟨o, ho⟩ := FieldValue.exists_compare?_iff.mpr ⟨hnull, hw.resolve_left hnull⟩
    refine ⟨.ofBool (op.accepts o), ?_, fun _ => ⟨o, ho, rfl⟩⟩
    rw [Relation.between, FieldValue.isNull_eq_false hnull, FieldValue.isNull_eq_false hv, ho]
    rfl

/-- What a record holds has the kind of a literal of the field. -/
theorem kind?_eq_of_conforms {r : ViewRecord} (hr : r.Conforms) {v : FieldValue}
    (hv : f.Admits v) (hnull : v ≠ .null) : r f = .null ∨ (r f).kind? = v.kind? := by
  rcases hr f with hkind | ⟨habsent, -⟩
  · exact .inr (hkind.trans (hv.kind.resolve_left hnull).symm)
  · exact .inl habsent

/-- **A comparison decides** what its relation says of the two values. -/
theorem decides_comparison (h : Documented functions) (op : Relation) {v : FieldValue}
    (hv : f.Admits v) (hnull : v ≠ .null) {p : FieldValue → Bool}
    (hp : ∀ w o, w.compare? v = some o → p w = op.accepts o) :
    Decides functions f (comparison f op.spelling v) p := by
  obtain ⟨a, ha, heval⟩ := isScalar_literal h hv
  refine ⟨_, (isScalar_field f).relation op ha, fun r hr => ?_⟩
  obtain ⟨t, ht, hknown⟩ := exists_between op hnull (kind?_eq_of_conforms hr hv hnull)
  refine ⟨t, ?_, fun hpresent => ?_⟩
  · simp only [Formula.eval, eval_column, heval, bind, Option.bind, ht]
  · obtain ⟨o, ho, rfl⟩ := hknown hpresent
    rw [hp _ o ho]

/-- Values that rank equal are equal. -/
theorem accepts_eq {w v : FieldValue} {o : Ordering} (h : w.compare? v = some o) :
    Relation.eq.accepts o = (w == v) := by
  have hw : w ≠ .null := (FieldValue.exists_compare?_iff.mp ⟨o, h⟩).1
  rw [Bool.eq_iff_iff, Relation.accepts, beq_iff_eq, beq_iff_eq, ← FieldValue.compare?_eq_iff hw,
    h, Option.some_inj]

/-- **Being among values of one kind** is unknown of null at most. -/
theorem exists_memberOf {w : FieldValue} {vs : List FieldValue}
    (hvs : ∀ v ∈ vs, v ≠ .null ∧ (w = .null ∨ w.kind? = v.kind?)) :
    ∃ t, memberOf w vs = some t ∧
      (w ≠ .null → t = .ofBool (vs.any fun v => v == w)) := by
  induction vs with
  | nil => exact ⟨.no, rfl, fun _ => rfl⟩
  | cons v vs ih =>
    obtain ⟨⟨hv, hkind⟩, hrest⟩ := List.forall_mem_cons.mp hvs
    obtain ⟨t, ht, hknown⟩ := exists_between .eq hv hkind
    obtain ⟨u, hu, hknown'⟩ := ih hrest
    refine ⟨t.or u, ?_, fun hw => ?_⟩
    · simp only [memberOf, ht, hu, bind, Option.bind]
      rfl
    · obtain ⟨o, ho, rfl⟩ := hknown hw
      rw [hknown' hw, accepts_eq ho, Truth.or_ofBool, List.any_cons, Bool.beq_comm]

/-- **A list decides** whether the value is one of its literals. -/
theorem decides_isIn (h : Documented functions) {v : FieldValue} {vs : List FieldValue}
    (hvs : ∀ w ∈ v :: vs, f.Admits w ∧ w ≠ .null) :
    Decides functions f
      (f.column ++ " IN (" ++ Text.joinWith ", " ((v :: vs).map literal) ++ ")")
      fun w => (v :: vs).any fun u => u == w := by
  obtain ⟨list, hlist, heval⟩ := isScalars_literals h fun w hw => (hvs w hw).1
  refine ⟨_, (isScalar_field f).isIn hlist, fun r hr => ?_⟩
  have hkinds : ∀ u ∈ v :: vs, u ≠ .null ∧ (r f = .null ∨ (r f).kind? = u.kind?) :=
    fun u hu => ⟨(hvs u hu).2, kind?_eq_of_conforms hr (hvs u hu).1 (hvs u hu).2⟩
  obtain ⟨t, ht, hknown⟩ := exists_memberOf hkinds
  refine ⟨t, ?_, hknown⟩
  simp only [Formula.eval, eval_column, heval, bind, Option.bind, ht]

/-- **A search decides** whether the value contains the text. -/
theorem decides_contains (h : Documented functions) (f : Field) (s : String) :
    Decides functions f
      ("positionCaseInsensitiveUTF8(toString(" ++ f.column ++ "), "
        ++ quoted (Text.lowercase s) ++ ") > 0")
      fun w => (Test.contains (Text.lowercase s)).holds w := by
  have hshown := IsScalars.call (by decide : IsWord "toString") (isScalar_field f).singleton
  have hposition := IsScalars.call (by decide : IsWord "positionCaseInsensitiveUTF8")
    (IsScalars.cons hshown (isScalar_quoted (Text.lowercase s)).singleton)
  have htest := hposition.relation .gt (isScalar_int 0)
  have htext : "positionCaseInsensitiveUTF8(toString(" ++ f.column ++ "), "
        ++ quoted (Text.lowercase s) ++ ") > 0"
      = "positionCaseInsensitiveUTF8" ++ "(" ++ ("toString" ++ "(" ++ f.column ++ ")" ++ ", "
        ++ quoted (Text.lowercase s)) ++ ")" ++ " " ++ Relation.gt.spelling ++ " "
        ++ Numeral.ofInt 0 := by
    have hgt : Relation.gt.spelling = ">" := rfl
    have hzero : Numeral.ofInt 0 = "0" := rfl
    rw [hgt, hzero, ← String.toList_inj]
    simp
  refine ⟨_, htext ▸ htest, fun r _ => ?_⟩
  by_cases hnull : r f = .null
  · -- a function of null is null, and a relation to null is unknown
    refine ⟨.unknown, ?_, fun hpresent => absurd hnull hpresent⟩
    simp [Formula.eval, Scalar.eval, Scalar.evalAll, rowOf_column, hnull, Relation.between]
  · obtain ⟨shown, place, hstring, hplace, hpos⟩ := h.position (r f) s hnull
    have hgt : (Ord.compare place 0 == .gt) = decide (0 < place) := by
      rw [Bool.eq_iff_iff, beq_iff_eq, decide_eq_true_iff]
      exact Std.compare_eq_gt
    refine ⟨.ofBool (decide (0 < place)), ?_, fun _ => ?_⟩
    · simp [Formula.eval, Scalar.eval, Scalar.evalAll, rowOf_column,
        FieldValue.isNull_eq_false hnull, hstring, hplace, Relation.between,
        FieldValue.compare?, Relation.accepts, hgt]
    · rw [Bool.eq_iff_iff.mpr (decide_eq_true_iff.trans hpos)]

/-! ## Guards -/

/-- A field that may not be null is not. -/
theorem ne_null_of_conforms {r : ViewRecord} (hr : r.Conforms) (hf : f.nullable = false) :
    r f ≠ .null := by
  intro hnull
  rcases hr f with hkind | ⟨-, hnullable⟩
  · rw [hnull] at hkind
    exact absurd hkind (by simp [FieldValue.kind?])
  · rw [hf] at hnullable
    exact absurd hnullable (by decide)

/-- Without nulls there is nothing to guard against. -/
theorem Decides.means {clause : String} {p : FieldValue → Bool}
    (h : Decides functions f clause p) (hf : f.nullable = false) :
    Means functions clause fun r => p (r f) := by
  obtain ⟨e, he, heval⟩ := h
  refine ⟨e, he, fun r hr => ?_⟩
  obtain ⟨t, ht, hknown⟩ := heval r hr
  rw [ht, hknown (ne_null_of_conforms hr hf)]

/-- **A required value**: the clause counts where there is a value, and null
fails. -/
theorem means_requirePresent {clause : String} {p : FieldValue → Bool}
    (h : Decides functions f clause p) (hnull : p .null = false) :
    Means functions (requirePresent f clause) fun r => p (r f) := by
  by_cases hf : f.nullable = true
  · obtain ⟨e, he, heval⟩ := h
    have htext : requirePresent f clause
        = "(" ++ (f.column ++ " IS NOT NULL" ++ " AND " ++ clause) ++ ")" := by
      rw [requirePresent, if_pos hf, ← String.toList_inj]
      simp
    refine ⟨_, htext ▸ (IsConjunction.cons (isScalar_field f).isNotNull
      he.isConjunction).isDisjunction.parens, fun r hr => ?_⟩
    obtain ⟨t, ht, hknown⟩ := heval r hr
    have hguard : (Formula.and (.not (.isNull (.column f.column))) e).eval functions (rowOf r)
        = some ((Truth.ofBool !(r f).isNull).and t) := by
      simp [Formula.eval, eval_column, ht]
    rw [hguard]
    -- of null the guard is false and decides, whatever the clause makes of it
    by_cases hpresent : r f = .null
    · simp [hpresent, hnull]
    · simp [FieldValue.isNull_eq_false hpresent, hknown hpresent]
  · rw [requirePresent, if_neg hf]
    exact h.means (Bool.eq_false_iff.mpr hf)

/-- **An optional value**: the clause counts where there is a value, and null
passes. -/
theorem means_allowAbsent {clause : String} {p : FieldValue → Bool}
    (h : Decides functions f clause p) (hnull : p .null = true) :
    Means functions (allowAbsent f clause) fun r => p (r f) := by
  by_cases hf : f.nullable = true
  · obtain ⟨e, he, heval⟩ := h
    have htext : allowAbsent f clause
        = "(" ++ (f.column ++ " IS NULL" ++ " OR " ++ clause) ++ ")" := by
      rw [allowAbsent, if_pos hf, ← String.toList_inj]
      simp
    refine ⟨_, htext ▸ (IsDisjunction.cons (isScalar_field f).isNull.isConjunction
      he.isConjunction.isDisjunction).parens, fun r hr => ?_⟩
    obtain ⟨t, ht, hknown⟩ := heval r hr
    have hguard : (Formula.or (.isNull (.column f.column)) e).eval functions (rowOf r)
        = some ((Truth.ofBool (r f).isNull).or t) := by
      simp [Formula.eval, eval_column, ht]
    rw [hguard]
    by_cases hpresent : r f = .null
    · simp [hpresent, hnull]
    · simp [FieldValue.isNull_eq_false hpresent, hknown hpresent]
  · rw [allowAbsent, if_neg hf]
    exact h.means (Bool.eq_false_iff.mpr hf)

/-! ## Tests of a field -/

/-- The text of a test for equality. -/
theorem means_eq (h : Documented functions) {v : FieldValue} (hv : f.Admits v) :
    Means functions (criterion ⟨f, .eq v⟩) fun r => r f == v := by
  by_cases hnull : v = .null
  · subst hnull
    refine ⟨_, (isScalar_field f).isNull, fun r _ => ?_⟩
    simp only [Formula.eval, eval_column, bind, Option.bind, pure]
    cases r f <;> rfl
  · have htext : criterion ⟨f, .eq v⟩ = requirePresent f (comparison f "=" v) := by
      cases v <;> first | rfl | exact absurd rfl hnull
    rw [htext]
    refine means_requirePresent (p := fun w => w == v)
      (decides_comparison h .eq hv hnull fun w o ho => (accepts_eq ho).symm) ?_
    cases v <;> first | rfl | exact absurd rfl hnull

/-- The text of a test for inequality. -/
theorem means_ne (h : Documented functions) {v : FieldValue} (hv : f.Admits v) :
    Means functions (criterion ⟨f, .ne v⟩) fun r => r f != v := by
  by_cases hnull : v = .null
  · subst hnull
    refine ⟨_, (isScalar_field f).isNotNull, fun r _ => ?_⟩
    simp only [Formula.eval, eval_column, bind, Option.bind, pure]
    cases r f <;> rfl
  · have htext : criterion ⟨f, .ne v⟩ = allowAbsent f (comparison f "!=" v) := by
      cases v <;> first | rfl | exact absurd rfl hnull
    have haccepts : ∀ w o, w.compare? v = some o → (w != v) = Relation.ne.accepts o :=
      fun w o ho => congrArg Bool.not (accepts_eq ho).symm
    rw [htext]
    refine means_allowAbsent (p := fun w => w != v) (decides_comparison h .ne hv hnull haccepts) ?_
    cases v <;> first | rfl | exact absurd rfl hnull

/-- The text of a test that orders, for each of the four relations. -/
theorem means_related (h : Documented functions) (op : Relation) {v : FieldValue}
    (hv : f.Admits v ∧ v ≠ .null) :
    Means functions (requirePresent f (comparison f op.spelling v))
      fun r => Test.related (r f) v op.accepts := by
  refine means_requirePresent (p := fun w => Test.related w v op.accepts)
    (decides_comparison h op hv.1 hv.2 fun w o ho => ?_) rfl
  rw [Test.related, ho]

/-- A list without its nulls has the same members that are values. -/
theorem any_filter_isNull (vs : List FieldValue) (w : FieldValue) :
    (vs.filter (!·.isNull)).any (fun v => v == w) = vs.any fun v => !v.isNull && v == w := by
  rw [List.any_filter]

/-- The text of a test for a list; of a list without values it is false. -/
theorem means_isIn (h : Documented functions) {vs : List FieldValue}
    (hvs : ∀ v ∈ vs, f.Admits v) :
    Means functions (criterion ⟨f, .isIn vs⟩)
      fun r => vs.any fun v => !v.isNull && v == r f := by
  have hpresent : ∀ v ∈ vs.filter (!·.isNull), f.Admits v ∧ v ≠ .null := by
    intro v hv
    obtain ⟨hmem, hnull⟩ := List.mem_filter.mp hv
    refine ⟨hvs v hmem, ?_⟩
    rintro rfl
    exact absurd hnull (by decide)
  simp only [← any_filter_isNull]
  cases hlist : vs.filter (!·.isNull) with
  | nil =>
    have htext : criterion ⟨f, .isIn vs⟩ = "0" := by
      unfold criterion
      simp only [hlist]
    rw [htext]
    exact ⟨_, isTest_number 0, fun r _ => rfl⟩
  | cons v rest =>
    rw [hlist] at hpresent
    have htext : criterion ⟨f, .isIn vs⟩ = requirePresent f
        (f.column ++ " IN (" ++ Text.joinWith ", " ((v :: rest).map literal) ++ ")") := by
      unfold criterion
      simp only [hlist]
    rw [htext]
    refine means_requirePresent (p := fun w => (v :: rest).any fun u => u == w)
      (decides_isIn h hpresent) ?_
    refine List.any_eq_false.mpr fun u hu => ?_
    simpa using (hpresent u hu).2

/-- **The text of a test means the test.** -/
theorem means_criterion (h : Documented functions) {c : Criterion} (hc : c.Admitted) :
    Means functions (criterion c) fun r => c.holds r := by
  obtain ⟨f, test⟩ := c
  cases test with
  | eq v => exact means_eq h hc
  | ne v => exact means_ne h hc
  | gt v => exact means_related h .gt hc
  | gte v => exact means_related h .ge hc
  | lt v => exact means_related h .lt hc
  | lte v => exact means_related h .le hc
  | isIn vs => exact means_isIn h hc
  | contains needle =>
    obtain ⟨s, rfl⟩ := hc
    exact means_requirePresent (decides_contains h f s) rfl

/-! ## Selections -/

/-- Requirements joined by `AND` hold where all of them do. -/
theorem isConjunction_joinWith {part : Selection} {parts : List Selection}
    (h : ∀ s ∈ part :: parts, Means functions (selection s) fun r => s.holds r) :
    ∃ e, IsConjunction (Text.joinWith " AND " ((part :: parts).map selection)) e ∧
      ∀ r : ViewRecord, r.Conforms →
        e.eval functions (rowOf r) = some (.ofBool ((part :: parts).all (Selection.holds r))) := by
  induction parts generalizing part with
  | nil =>
    obtain ⟨e, he, heval⟩ := h part List.mem_cons_self
    exact ⟨e, he.isConjunction, fun r hr => by simpa using heval r hr⟩
  | cons next parts ih =>
    obtain ⟨hpart, hrest⟩ := List.forall_mem_cons.mp h
    obtain ⟨e, he, heval⟩ := hpart
    obtain ⟨e', he', heval'⟩ := ih hrest
    refine ⟨_, IsConjunction.cons he he', fun r hr => ?_⟩
    rw [Formula.eval, heval r hr, heval' r hr]
    simp

/-- Alternatives joined by `OR` hold where one of them does. -/
theorem isDisjunction_joinWith {part : Selection} {parts : List Selection}
    (h : ∀ s ∈ part :: parts, Means functions (selection s) fun r => s.holds r) :
    ∃ e, IsDisjunction (Text.joinWith " OR " ((part :: parts).map selection)) e ∧
      ∀ r : ViewRecord, r.Conforms →
        e.eval functions (rowOf r) = some (.ofBool ((part :: parts).any (Selection.holds r))) := by
  induction parts generalizing part with
  | nil =>
    obtain ⟨e, he, heval⟩ := h part List.mem_cons_self
    exact ⟨e, he.isConjunction.isDisjunction, fun r hr => by simpa using heval r hr⟩
  | cons next parts ih =>
    obtain ⟨hpart, hrest⟩ := List.forall_mem_cons.mp h
    obtain ⟨e, he, heval⟩ := hpart
    obtain ⟨e', he', heval'⟩ := ih hrest
    refine ⟨_, IsDisjunction.cons he.isConjunction he', fun r hr => ?_⟩
    rw [Formula.eval, heval r hr, heval' r hr]
    simp

/-- **The text of a selection means the selection**, if its tests fit their
fields. -/
theorem means_selection (h : Documented functions) {s : Selection}
    (hs : s.Every Criterion.Admitted) : Means functions (selection s) fun r => s.holds r := by
  induction hs with
  | all => exact ⟨_, isTest_number 1, fun r _ => by simp [Formula.eval]⟩
  | @criterion c hc =>
    rw [selection]
    simpa using means_criterion h hc
  | @and parts _ ih =>
    cases parts with
    | nil => exact ⟨_, isTest_number 1, fun r _ => by simp [Formula.eval, Selection.allHold]⟩
    | cons part parts =>
      obtain ⟨e, he, heval⟩ := isConjunction_joinWith ih
      rw [selection, selections_eq_map]
      refine ⟨e, he.isDisjunction.parens, fun r hr => ?_⟩
      simp only [heval r hr, Selection.holds_and, Selection.allHold_eq_all]
  | @or parts _ ih =>
    cases parts with
    | nil => exact ⟨_, isTest_number 0, fun r _ => by simp [Formula.eval, Selection.anyHolds]⟩
    | cons part parts =>
      obtain ⟨e, he, heval⟩ := isDisjunction_joinWith ih
      rw [selection, selections_eq_map]
      refine ⟨e, he.parens, fun r hr => ?_⟩
      simp only [heval r hr, Selection.holds_or, Selection.anyHolds_eq_any]
  | @not part _ ih =>
    obtain ⟨e, he, heval⟩ := ih
    rw [selection]
    refine ⟨_, he.isConjunction.isDisjunction.negation, fun r hr => ?_⟩
    simp only [Formula.eval, heval r hr, Selection.holds_not, ← Truth.not_ofBool]
    rfl

/-- **A selection and its text agree.** The text of a checked predicate is an
expression, and of every record that conforms it is true where the selection holds
and false where it does not, never unknown. -/
theorem selection_reads_as_holds (h : Documented functions) {p : Predicate} {s : Selection}
    (hcheck : p.check = .ok s) :
    ∃ e, read? (selection s) = some e ∧ ∀ r : ViewRecord, r.Conforms →
      e.eval functions (rowOf r) = some (.ofBool (s.holds r)) := by
  obtain ⟨e, he, heval⟩ := means_selection h (Predicate.every_admitted_of_check hcheck)
  exact ⟨e, he.isConjunction.isDisjunction.read?_eq, heval⟩

/-- A view from nowhere in particular does not come from a country with a quote in
its name, and did not happen in the leap second, says its row too. -/
theorem selection_reads_as_holds_anonymous :
    ∃ e, read? (selection (.not (.or
        [.criterion ⟨.viewerCountryName, .contains "d'i"⟩,
          .and [.criterion ⟨.viewedAt, .gte (.instant ⟨⟨2016, 12, 31, by decide, by decide,
            by decide, by decide⟩, 86399, 1500000000, by decide, by decide⟩)⟩]]))) = some e ∧
      e.eval standardFunctions (rowOf fun f => match f.kind with
        | .integer => .int 7
        | .text => if f.nullable then .null else .text "Reading"
        | .timestamp => .instant ⟨⟨2016, 12, 31, by decide, by decide, by decide, by decide⟩,
            86399, 0, by decide, by decide⟩) = some .yes := by
  have hcheck : (Predicate.not (.or [.leaf ⟨"viewer_country.name", .contains, .str "D'I"⟩,
      .and [.leaf ⟨"viewed_at", .gte, .str "2016-12-31T23:59:60.5Z"⟩]])).check
      = .ok _ := rfl
  obtain ⟨e, hread, heval⟩ := selection_reads_as_holds documented_standardFunctions hcheck
  refine ⟨e, hread, heval _ fun f => ?_⟩
  cases f <;> simp [FieldValue.kind?, Field.kind, Field.nullable]

end Readership.Sql

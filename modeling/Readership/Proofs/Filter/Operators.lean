import Readership.Proofs.Filter.Leaves
import Readership.Proofs.Plan.Arrangement

/-!
# The algebra of the operators

A leaf is read twice: its literal becomes a value of the field, and then the value of a
view is held against that. *Equal* and *not equal* ask whether two values are the same,
an order asks how they compare, and only values of one kind compare at all. So it has to
be shown that the two questions agree (`FieldValue.compare?_cases`): values that do not
compare are not the same, and of those that do exactly the same ones rank equal.

From this the laws of the operators follow for every value, of whatever kind, and for none
(`Operator.Algebra`): which operators take a literal together, which are the opposite of
others, alternatives of others or exclude one another, and how a greater literal lets
fewer values pass.
-/

namespace Readership

namespace FieldValue

variable {v a b : FieldValue}

/-- **A value beside one that is there** does not compare with it and is another, or it
compares in one of three ways, and is the same where they rank equal. -/
theorem compare?_cases (v : FieldValue) (ha : a ≠ null) :
    (v.compare? a = none ∧ v ≠ a) ∨ ∃ o, v.compare? a = some o ∧ (v = a ↔ o = .eq) := by
  cases h : v.compare? a with
  | none =>
    refine .inl ⟨rfl, ?_⟩
    rintro rfl
    obtain ⟨o, ho⟩ := exists_compare?_iff.mpr ⟨ha, rfl⟩
    exact nomatch h.symm.trans ho
  | some o =>
    have hv : v ≠ null := (exists_compare?_iff.mp ⟨o, h⟩).1
    refine .inr ⟨o, rfl, ?_⟩
    rw [← compare?_eq_iff hv, h, Option.some.injEq]

/-- Null does not compare with anything. -/
theorem compare?_null : null.compare? a = none := by
  cases a <;> rfl

/-- **At most**, in the line in which values stand. -/
def AtMost (a b : FieldValue) : Prop :=
  a = b ∨ a.Precedes b

/-- What comes before a value that is there, is there. -/
theorem AtMost.ne_null (h : a.AtMost b) (hb : b ≠ null) : a ≠ null := by
  rcases h with rfl | h
  · exact hb
  · rintro rfl
    cases h with
    | beforeNull h => exact h rfl

/-- At most another is what does not rank behind it. -/
theorem atMost_iff : a.AtMost b ↔ (Ord.compare a b).isLE = true := by
  rw [AtMost, Ordering.isLE_iff_eq_lt_or_eq_eq, or_comm]
  exact or_congr compare_eq_lt_iff.symm compare_eq_iff.symm

/-- **Comparing with less.** What does not rank before a value does not rank before a
smaller one of its kind. -/
theorem compare?_ne_lt_of_atMost {o : Ordering} (h : a.AtMost b) (hkind : a.kind? = b.kind?)
    (hvb : v.compare? b = some o) (ho : o ≠ .lt) :
    ∃ o', v.compare? a = some o' ∧ o' ≠ .lt := by
  obtain ⟨hv, hvkind⟩ := exists_compare?_iff.mp ⟨o, hvb⟩
  have hva := compare?_eq_some_compare hv (hvkind.trans hkind.symm)
  refine ⟨_, hva, fun hlt => ho ?_⟩
  -- otherwise the value would rank before the smaller and so before the greater
  rw [compare?_eq_some_compare hv hvkind] at hvb
  rw [← Option.some.inj hvb]
  show Ord.compare v b = .lt
  exact Std.TransCmp.lt_of_lt_of_isLE hlt (atMost_iff.mp h)

end FieldValue

namespace Test

open FieldValue

variable {v a : FieldValue}

/-- How a value relates to a literal is what was found in comparing them. -/
theorem related_of_some {o : Ordering} {accept : Ordering → Bool}
    (h : v.compare? a = some o) : related v a accept = accept o := by
  rw [related, h]

theorem related_of_none {accept : Ordering → Bool} (h : v.compare? a = none) :
    related v a accept = false := by
  rw [related, h]

/-- **In a list** is what is equal to an item that is there. -/
theorem holds_isIn_iff {literals : List FieldValue} :
    (isIn literals).holds v = true ↔ ∃ a ∈ literals, a ≠ .null ∧ (eq a).holds v = true := by
  simp only [holds, List.any_eq_true, Bool.and_eq_true, Bool.not_eq_true', beq_iff_eq]
  refine exists_congr fun a => and_congr_right fun _ => and_congr ?_ eq_comm
  rw [← Bool.not_eq_true, isNull_iff]

/-- **An order with what is equal** is the order or equal. -/
theorem related_or_eq (ha : a ≠ .null) {strict loose : Ordering → Bool}
    (h : ∀ o, loose o = (strict o || o == .eq)) :
    related v a loose = (related v a strict || v == a) := by
  rcases compare?_cases v ha with ⟨hnone, hne⟩ | ⟨o, ho, heq⟩
  · rw [related_of_none hnone, related_of_none hnone, beq_false_of_ne hne, Bool.or_self]
  · have hbeq : (v == a) = (o == .eq) := by rw [Bool.eq_iff_iff, beq_iff_eq, beq_iff_eq, heq]
    rw [related_of_some ho, related_of_some ho, h, hbeq]

/-- **At least** is more or equal. -/
theorem holds_gte (ha : a ≠ .null) : (gte a).holds v = ((gt a).holds v || (eq a).holds v) :=
  related_or_eq ha fun o => by cases o <;> rfl

/-- **At most** is less or equal. -/
theorem holds_lte (ha : a ≠ .null) : (lte a).holds v = ((lt a).holds v || (eq a).holds v) :=
  related_or_eq ha fun o => by cases o <;> rfl

/-- **Beside a literal of its kind** a value is less, equal or greater, as it compares. -/
theorem exists_ordering (ha : a ≠ .null) (hkind : v.kind? = a.kind?) :
    ∃ o : Ordering, ((lt a).holds v = true ↔ o = .lt) ∧ ((eq a).holds v = true ↔ o = .eq)
      ∧ ((gt a).holds v = true ↔ o = .gt) := by
  have hv : v ≠ .null := by
    rintro rfl
    exact ha (kind?_eq_none.mp hkind.symm)
  obtain ⟨o, ho⟩ := exists_compare?_iff.mpr ⟨hv, hkind⟩
  refine ⟨o, ?_, ?_, ?_⟩
  · rw [holds, related_of_some ho, beq_iff_eq]
  · rw [holds, beq_iff_eq, ← compare?_eq_iff hv, ho, Option.some.injEq]
  · rw [holds, related_of_some ho, beq_iff_eq]

/-- **A smaller literal** lets at least as much pass. -/
theorem holds_gte_of_atMost {b : FieldValue} (h : a.AtMost b) (hkind : a.kind? = b.kind?)
    (hv : (gte b).holds v = true) : (gte a).holds v = true := by
  rw [holds, related] at hv
  split at hv
  next o ho =>
    obtain ⟨o', ho', hne⟩ := compare?_ne_lt_of_atMost h hkind ho (bne_iff_ne.mp hv)
    rw [holds, related_of_some ho', bne_iff_ne]
    exact hne
  next => cases hv

end Test

/-! ## Leaves -/

/-- **The operators of an order.** -/
def Operator.ordering : List Operator := [.gt, .gte, .lt, .lte]

/-- The test that an operator makes of one value of the field; lists and texts to search
for are none. -/
def Operator.test? : Operator → Option (FieldValue → Test)
  | .eq => some .eq
  | .ne => some .ne
  | .gt => some .gt
  | .gte => some .gte
  | .lt => some .lt
  | .lte => some .lte
  | .isIn | .contains => none

/-- **Null passes no order.** -/
theorem Test.not_holds_null {op : Operator} {test : FieldValue → Test} {a : FieldValue}
    (hop : op ∈ Operator.ordering) (htest : op.test? = some test) :
    ¬ (test a).holds .null = true := by
  have hnone : FieldValue.null.compare? a = none := FieldValue.compare?_null
  cases op <;> cases htest <;>
    first
      | exact absurd hop (by decide)
      | rw [holds, related_of_none hnone]; exact Bool.false_ne_true

namespace Condition

open Outcome

/-- **A leaf binds**: its path names a field, and its literal fits. -/
def Binds (c : Condition) : Prop :=
  ∃ k, c.check = .ok k

/-- **A value passes a leaf**: the leaf binds, and the value passes its test. -/
def Passes (c : Condition) (v : FieldValue) : Prop :=
  ∃ k, c.check = .ok k ∧ k.test.holds v = true

variable {path : String} {op : Operator} {literal : Json} {f : Field} {v a : FieldValue}

/-- A leaf whose path names a field binds where the field takes its literal. -/
theorem binds_iff (hf : Field.ofPath? path = some f) :
    (Condition.mk path op literal).Binds ↔ f.Takes op literal := by
  rw [Binds, exists_check_iff, Accepted]
  simp only [hf, Option.some.injEq, exists_eq_left']

/-- Under a path of a field a leaf becomes a test of that field. -/
theorem check_eq_ok_iff (hf : Field.ofPath? path = some f) {k : Criterion} :
    (Condition.mk path op literal).check = .ok k ↔
      ∃ t, (Condition.mk path op literal).testOf f = .ok t ∧ k = ⟨f, t⟩ := by
  have hparse : Field.parse path = .ok f := by rw [Field.parse, hf]
  rw [check, hparse]
  show ((Condition.mk path op literal).testOf f >>= fun t => Except.ok (Criterion.mk f t)) = _ ↔ _
  rw [bind_eq_ok]
  refine exists_congr fun t => and_congr_right fun _ => ?_
  rw [Except.ok.injEq, eq_comm]

/-- What passes a leaf passes the test made for the field. -/
theorem passes_iff (hf : Field.ofPath? path = some f) :
    (Condition.mk path op literal).Passes v ↔
      ∃ t, (Condition.mk path op literal).testOf f = .ok t ∧ t.holds v = true := by
  simp only [Passes, check_eq_ok_iff hf]
  constructor
  · rintro ⟨_, ⟨t, ht, rfl⟩, hv⟩
    exact ⟨t, ht, hv⟩
  · rintro ⟨t, ht, hv⟩
    exact ⟨_, ⟨t, ht, rfl⟩, hv⟩

/-- **A literal has a place in an order** as the value that it has for the field. -/
theorem ordered_of_coerce (h : f.coerce literal = .ok a) (ha : a ≠ .null) :
    (Condition.mk path op literal).ordered f = .ok a := by
  refine bind_eq_ok.mpr ⟨a, h, ?_⟩
  rw [FieldValue.isNull_eq_false ha]
  rfl

/-- **Passing a comparison** is passing the test with the value of the literal; in an order
that has to be there. -/
theorem passes_iff_of_coerce (hf : Field.ofPath? path = some f) {test : FieldValue → Test}
    (htest : op.test? = some test) (h : f.coerce literal = .ok a)
    (ha : op ∈ Operator.ordering → a ≠ .null) :
    (Condition.mk path op literal).Passes v ↔ (test a).holds v = true := by
  have hmade : (Condition.mk path op literal).testOf f = .ok (test a) := by
    cases op <;> cases htest <;> rw [testOf]
    case eq | ne => rw [h]; rfl
    all_goals rw [ordered_of_coerce h (ha (by decide))]; rfl
  rw [passes_iff hf, hmade]
  simp

/-- Passing equality is having the value of the literal. -/
theorem passes_eq_iff (hf : Field.ofPath? path = some f) :
    (Condition.mk path .eq literal).Passes v ↔ f.coerce literal = .ok v := by
  rw [passes_iff hf]
  simp only [testOf, map_eq_ok]
  constructor
  · rintro ⟨_, ⟨a, ha, rfl⟩, hv⟩
    rw [ha, beq_iff_eq.mp hv]
  · exact fun h => ⟨_, ⟨v, h, rfl⟩, beq_self_eq_true v⟩

/-- What equality takes has a value, and one that is there unless it is null. -/
theorem exists_coerce_of_binds_eq (hf : Field.ofPath? path = some f) (hne : literal ≠ .null)
    (h : (Condition.mk path .eq literal).Binds) : ∃ a, f.coerce literal = .ok a ∧ a ≠ .null := by
  obtain ⟨a, ha⟩ := (f.exists_coerce_iff literal).mpr ((binds_iff hf).mp h)
  refine ⟨a, ha, ?_⟩
  rintro rfl
  exact hne (Field.coerce_eq_null_iff.mp ha)

/-- **What equality takes is compared with by its value**: a literal other than null has one,
and each comparison with it is the test with that value. -/
theorem exists_compares_of_binds_eq (hf : Field.ofPath? path = some f) (hne : literal ≠ .null)
    (h : (Condition.mk path .eq literal).Binds) :
    ∃ a, f.coerce literal = .ok a ∧ a ≠ .null
      ∧ ∀ (op : Operator) {test : FieldValue → Test}, op.test? = some test →
        ∀ v, (Condition.mk path op literal).Passes v ↔ (test a).holds v = true := by
  obtain ⟨a, hcoerce, ha⟩ := exists_coerce_of_binds_eq hf hne h
  exact ⟨a, hcoerce, ha, fun _ _ htest _ => passes_iff_of_coerce hf htest hcoerce fun _ => ha⟩

/-- An order takes the literals of the field. -/
theorem binds_iff_of_mem_ordering (hf : Field.ofPath? path = some f)
    (hop : op ∈ Operator.ordering) :
    (Condition.mk path op literal).Binds ↔ f.Reads literal := by
  rw [binds_iff hf]
  simp only [Operator.ordering, List.mem_cons, List.not_mem_nil, or_false] at hop
  rcases hop with rfl | rfl | rfl | rfl <;> rfl

/-- **What is held in an order** is a literal that is there, by one of the four tests. -/
theorem exists_test_of_passes (hf : Field.ofPath? path = some f) (hop : op ∈ Operator.ordering)
    (h : (Condition.mk path op literal).Passes v) :
    ∃ test a, op.test? = some test ∧ f.coerce literal = .ok a ∧ a ≠ .null
      ∧ (test a).holds v = true := by
  obtain ⟨k, hk, -⟩ := id h
  have hreads := (binds_iff_of_mem_ordering hf hop).mp ⟨k, hk⟩
  have hne : literal ≠ .null := by
    rintro rfl
    exact f.not_reads_null hreads
  obtain ⟨a, hcoerce, ha⟩ :=
    exists_coerce_of_binds_eq hf hne ((binds_iff hf).mpr (.inr hreads))
  have htest : ∃ test, op.test? = some test := by
    cases op with
    | isIn | contains => simp [Operator.ordering] at hop
    | _ => exact ⟨_, rfl⟩
  obtain ⟨test, htest⟩ := htest
  exact ⟨test, a, htest, hcoerce, ha, (passes_iff_of_coerce hf htest hcoerce fun _ => ha).mp h⟩

/-- **In a list** is a value that is there and that an item has. -/
theorem passes_isIn_iff (hf : Field.ofPath? path = some f) {items : List Json}
    (h : (Condition.mk path .isIn (.arr items)).Binds) :
    (Condition.mk path .isIn (.arr items)).Passes v ↔
      v ≠ .null ∧ ∃ item ∈ items, f.coerce item = .ok v := by
  obtain ⟨literals, hliterals⟩ :=
    (exists_mapM_coerce_iff f items).mpr (by simpa [Field.Takes] using (binds_iff hf).mp h)
  have hmade : (Condition.mk path .isIn (.arr items)).testOf f = .ok (.isIn literals) := by
    rw [testOf]
    show (items.mapM f.coerce).map Test.isIn = _
    rw [hliterals]
    rfl
  rw [passes_iff hf, hmade, ← mem_mapM_iff hliterals]
  simp only [Except.ok.injEq, exists_eq_left', Test.holds_isIn_iff]
  constructor
  · rintro ⟨a, ha, hne, hv⟩
    rw [beq_iff_eq.mp hv]
    exact ⟨hne, ha⟩
  · rintro ⟨hne, hv⟩
    exact ⟨v, hv, hne, beq_self_eq_true v⟩

end Condition

/-- **The algebra of the operators** of one field, under a path that names it. -/
structure Operator.Algebra (path : String) (f : Field) : Prop where
  /-- A leaf selects the records whose value passes it. -/
  selects {op : Operator} {literal : Json} {s : Selection} (r : ViewRecord) :
    (Predicate.leaf ⟨path, op, literal⟩).check = .ok s →
      (s.holds r = true ↔ (Condition.mk path op literal).Passes (r f))
  /-- *Not equal* takes what *equal* takes. -/
  binds_ne (literal : Json) :
    (Condition.mk path .ne literal).Binds ↔ (Condition.mk path .eq literal).Binds
  /-- *Not equal* is the opposite of *equal*. -/
  ne {literal : Json} (v : FieldValue) : (Condition.mk path .eq literal).Binds →
    ((Condition.mk path .ne literal).Passes v ↔ ¬ (Condition.mk path .eq literal).Passes v)
  /-- A list is taken where *equal* takes its items, and nothing but a list. -/
  binds_isIn (literal : Json) : (Condition.mk path .isIn literal).Binds ↔
    ∃ items, literal = .arr items ∧ ∀ item ∈ items, (Condition.mk path .eq item).Binds
  /-- In a list is what equals an item other than null. -/
  isIn {items : List Json} (v : FieldValue) : (Condition.mk path .isIn (.arr items)).Binds →
    ((Condition.mk path .isIn (.arr items)).Passes v ↔
      ∃ item ∈ items, item ≠ .null ∧ (Condition.mk path .eq item).Passes v)
  /-- Null is in no list. -/
  isIn_null (literal : Json) : ¬ (Condition.mk path .isIn literal).Passes .null
  /-- An order takes what *equal* takes, other than null. -/
  binds_order {op : Operator} (literal : Json) : op ∈ ordering →
    ((Condition.mk path op literal).Binds ↔
      literal ≠ .null ∧ (Condition.mk path .eq literal).Binds)
  /-- At least is more or equal. -/
  gte {literal : Json} (v : FieldValue) : literal ≠ .null →
    (Condition.mk path .eq literal).Binds →
      ((Condition.mk path .gte literal).Passes v ↔
        (Condition.mk path .gt literal).Passes v ∨ (Condition.mk path .eq literal).Passes v)
  /-- At most is less or equal. -/
  lte {literal : Json} (v : FieldValue) : literal ≠ .null →
    (Condition.mk path .eq literal).Binds →
      ((Condition.mk path .lte literal).Passes v ↔
        (Condition.mk path .lt literal).Passes v ∨ (Condition.mk path .eq literal).Passes v)
  /-- A value of the kind of the field is less, equal or more, and only one of these. -/
  one_of_three {literal : Json} {v : FieldValue} : literal ≠ .null →
    (Condition.mk path .eq literal).Binds → v.kind? = some f.kind →
      ∃! op, op ∈ [Operator.lt, .eq, .gt] ∧ (Condition.mk path op literal).Passes v
  /-- Null has no place in an order. -/
  order_null {op : Operator} (literal : Json) : op ∈ ordering →
    ¬ (Condition.mk path op literal).Passes .null
  /-- At least the greater literal is at least the smaller one. -/
  gte_of_atMost {x y : Json} {a b v : FieldValue} : f.coerce x = .ok a → f.coerce y = .ok b →
    a.AtMost b → (Condition.mk path .gte y).Passes v → (Condition.mk path .gte x).Passes v

namespace Operator

open Condition Outcome

/-- **The operators obey their algebra** on every field, under each of its paths. -/
theorem obey_algebra {path : String} {f : Field} (hf : Field.ofPath? path = some f) :
    Algebra path f where
  selects r h := by
    obtain ⟨k, hk, rfl⟩ := map_eq_ok.mp (Predicate.check_leaf _ ▸ h)
    obtain ⟨t, ht, rfl⟩ := (check_eq_ok_iff hf).mp hk
    rw [Selection.holds_criterion, passes_iff hf, ht]
    simp [Criterion.holds]
  binds_ne literal := by
    rw [binds_iff hf, binds_iff hf]
    rfl
  ne {literal} v h := by
    obtain ⟨a, ha⟩ := (f.exists_coerce_iff _).mpr ((binds_iff hf).mp h)
    rw [passes_iff_of_coerce hf rfl ha fun hop => absurd hop (by decide), passes_eq_iff hf, ha,
      Except.ok.injEq, Test.holds, bne_iff_ne, ne_comm]
  binds_isIn literal := by
    simp only [binds_iff hf]
    rfl
  isIn {items} v h := by
    simp only [passes_isIn_iff hf h, passes_eq_iff hf]
    -- an item is there where its value is
    have hiff {item : Json} (hv : f.coerce item = .ok v) : v ≠ .null ↔ item ≠ .null := by
      rw [ne_eq, ne_eq, ← Field.coerce_eq_null_iff (f := f), hv, Except.ok.injEq]
    constructor
    · rintro ⟨hne, item, hitem, hv⟩
      exact ⟨item, hitem, (hiff hv).mp hne, hv⟩
    · rintro ⟨item, hitem, hne, hv⟩
      exact ⟨(hiff hv).mpr hne, item, hitem, hv⟩
  isIn_null literal h := by
    obtain ⟨k, hk, -⟩ := id h
    obtain ⟨items, rfl, -⟩ := (binds_iff hf).mp ⟨k, hk⟩
    exact ((passes_isIn_iff hf ⟨k, hk⟩).mp h).1 rfl
  binds_order literal hop := by
    rw [binds_iff_of_mem_ordering hf hop, binds_iff hf]
    constructor
    · intro hreads
      refine ⟨?_, .inr hreads⟩
      rintro rfl
      exact f.not_reads_null hreads
    · rintro ⟨hne, hnull | hreads⟩
      · exact absurd hnull hne
      · exact hreads
  gte v hne h := by
    obtain ⟨a, -, ha, hpasses⟩ := exists_compares_of_binds_eq hf hne h
    rw [hpasses .gte rfl, hpasses .gt rfl, hpasses .eq rfl, Test.holds_gte ha, Bool.or_eq_true]
  lte v hne h := by
    obtain ⟨a, -, ha, hpasses⟩ := exists_compares_of_binds_eq hf hne h
    rw [hpasses .lte rfl, hpasses .lt rfl, hpasses .eq rfl, Test.holds_lte ha, Bool.or_eq_true]
  one_of_three {literal v} hne h hkind := by
    obtain ⟨a, hcoerce, ha, hpasses⟩ := exists_compares_of_binds_eq hf hne h
    have hsame := hkind.trans ((Field.admits_of_coerce hcoerce).kind.resolve_left ha).symm
    obtain ⟨o, hlt, heq, hgt⟩ := Test.exists_ordering ha hsame
    rw [← hpasses .lt rfl] at hlt
    rw [← hpasses .eq rfl] at heq
    rw [← hpasses .gt rfl] at hgt
    cases o <;> simp [ExistsUnique, hlt, heq, hgt]
  order_null literal hop h := by
    obtain ⟨test, a, htest, -, -, hnull⟩ := exists_test_of_passes hf hop h
    exact Test.not_holds_null hop htest hnull
  gte_of_atMost ha hb hle h := by
    obtain ⟨test, b', htest, hb', hne, hv⟩ := exists_test_of_passes hf (by decide) h
    cases htest
    cases hb.symm.trans hb'
    have hane := hle.ne_null hne
    refine (passes_iff_of_coerce hf rfl ha fun _ => hane).mpr (Test.holds_gte_of_atMost hle ?_ hv)
    rw [(Field.admits_of_coerce ha).kind.resolve_left hane,
      (Field.admits_of_coerce hb).kind.resolve_left hne]

/-- A text that spells a number is a literal of the blog, and of a number one of the three
relations to it holds. -/
theorem obey_algebra_blog :
    Field.ofPath? " blog.id" = some .blogId
      ∧ ∃! op, op ∈ [Operator.lt, .eq, .gt]
        ∧ (Condition.mk " blog.id" op (.str " 7")).Passes (.int 9) := by
  have hpath : Field.ofPath? " blog.id" = some .blogId := rfl
  exact ⟨hpath, (obey_algebra hpath).one_of_three (by simp) ⟨⟨.blogId, .eq (.int 7)⟩, rfl⟩ rfl⟩

end Operator

end Readership

import Readership.Proofs.Calendar.Order
import Readership.Proofs.Calendar.Reading
import Readership.Proofs.Filter.Truth

/-!
# Values that fit their fields

A field has a kind and may or may not be left out. A record *conforms*
(`ViewRecord.Conforms`) if every field holds a value of its kind, or none where
none is allowed; a literal is *admitted* by a field (`Field.Admits`) if it is
null or of the kind of the field, and an instant among them is one that a text
can spell. Values of one kind are always comparable, others never
(`FieldValue.exists_compare?_iff`), so after a predicate has passed the check no
test ever compares across kinds: all its tests are admitted
(`Predicate.every_admitted_of_check`), those of an order without null.
-/

namespace Readership

namespace FieldValue

/-- **The kind of a value**; null has none. -/
def kind? : FieldValue → Option FieldKind
  | null => none
  | int _ => some .integer
  | text _ => some .text
  | instant _ => some .timestamp

@[simp] theorem kind?_eq_none {v : FieldValue} : v.kind? = none ↔ v = null := by
  cases v <;> simp [kind?]

theorem kind?_ofText? (s : Option String) :
    (ofText? s).kind? = some .text ∨ ofText? s = null := by
  cases s with
  | none => exact .inr rfl
  | some s => exact .inl rfl

/-- **Values of one kind are comparable**, others are not. -/
theorem exists_compare?_iff {a b : FieldValue} :
    (∃ o, a.compare? b = some o) ↔ a ≠ null ∧ a.kind? = b.kind? := by
  cases a <;> cases b <;> simp [compare?, kind?]

/-- **Comparable values of equal rank are equal.** -/
theorem compare?_eq_iff {a b : FieldValue} (ha : a ≠ null) :
    a.compare? b = some .eq ↔ a = b := by
  cases a <;> cases b <;>
    simp [compare?, Instant.compare_eq_iff] at ha ⊢

end FieldValue

/-- **A record whose fields fit**: each holds a value of its kind, or none
where none is allowed. -/
def ViewRecord.Conforms (r : ViewRecord) : Prop :=
  ∀ f : Field, (r f).kind? = some f.kind ∨ r f = .null ∧ f.nullable = true

/-- **A literal that a field can be compared with.** -/
structure Field.Admits (f : Field) (v : FieldValue) : Prop where
  kind : v = .null ∨ v.kind? = some f.kind
  proper : ∀ {t : Instant}, v = .instant t → t.Proper

theorem Field.admits_null (f : Field) : f.Admits .null :=
  ⟨.inl rfl, fun h => nomatch h⟩

/-- **What a literal of a document becomes fits the field.** -/
theorem Field.admits_of_coerce {f : Field} {j : Json} {v : FieldValue}
    (h : f.coerce j = .ok v) : f.Admits v := by
  unfold Field.coerce at h
  split at h
  · cases h
    exact f.admits_null
  · rename_i hkind
    split at h
    · cases h
      exact ⟨.inr (by rw [hkind]; rfl), fun h => nomatch h⟩
    · cases h
  · rename_i hkind
    split at h
    · cases h
      exact ⟨.inr (by rw [hkind]; rfl), fun h => nomatch h⟩
    · cases h
  · rename_i hkind
    split at h
    · rename_i t ht
      cases h
      refine ⟨.inr (by rw [hkind]; rfl), fun heq => ?_⟩
      cases heq
      unfold Field.instantLiteral? at ht
      split at ht
      · exact Calendar.proper_of_instant? ht
      · cases ht
    · cases h

/-- **A test that fits a field.** Null has no place in an order, and what is
searched for is in small letters. -/
def Test.Admitted (f : Field) : Test → Prop
  | .eq v | .ne v => f.Admits v
  | .gt v | .gte v | .lt v | .lte v => f.Admits v ∧ v ≠ .null
  | .isIn vs => ∀ v ∈ vs, f.Admits v
  | .contains needle => ∃ s, needle = Text.lowercase s

/-- A criterion whose test fits its field. -/
def Criterion.Admitted (c : Criterion) : Prop :=
  c.test.Admitted c.field

/-- **All criteria of a selection** have a property. -/
inductive Selection.Every (P : Criterion → Prop) : Selection → Prop where
  | all : Every P .all
  | criterion {c : Criterion} : P c → Every P (.criterion c)
  | and {parts : List Selection} : (∀ s ∈ parts, Every P s) → Every P (.and parts)
  | or {parts : List Selection} : (∀ s ∈ parts, Every P s) → Every P (.or parts)
  | not {part : Selection} : Every P part → Every P (.not part)

namespace Condition

open Outcome

theorem admits_of_ordered {c : Condition} {f : Field} {v : FieldValue}
    (h : c.ordered f = .ok v) : f.Admits v ∧ v ≠ .null := by
  obtain ⟨w, hw, h⟩ := bind_eq_ok.mp h
  split at h
  · cases h
  · rename_i hnull
    cases h
    refine ⟨Field.admits_of_coerce hw, fun heq => hnull ?_⟩
    rw [heq]
    rfl

/-- **The test of a condition fits its field.** -/
theorem admitted_of_testOf {c : Condition} {f : Field} {test : Test}
    (h : c.testOf f = .ok test) : test.Admitted f := by
  unfold testOf at h
  split at h
  · obtain ⟨v, hv, rfl⟩ := map_eq_ok.mp h
    exact Field.admits_of_coerce hv
  · obtain ⟨v, hv, rfl⟩ := map_eq_ok.mp h
    exact Field.admits_of_coerce hv
  · obtain ⟨v, hv, rfl⟩ := map_eq_ok.mp h
    exact admits_of_ordered hv
  · obtain ⟨v, hv, rfl⟩ := map_eq_ok.mp h
    exact admits_of_ordered hv
  · obtain ⟨v, hv, rfl⟩ := map_eq_ok.mp h
    exact admits_of_ordered hv
  · obtain ⟨v, hv, rfl⟩ := map_eq_ok.mp h
    exact admits_of_ordered hv
  · split at h
    · obtain ⟨vs, hvs, rfl⟩ := map_eq_ok.mp h
      intro v hv
      obtain ⟨j, -, hj⟩ := exists_of_mem_mapM hvs v hv
      exact Field.admits_of_coerce hj
    · cases h
  · split at h
    · cases h
      exact ⟨_, rfl⟩
    · cases h

theorem admitted_of_check {c : Condition} {k : Criterion} (h : c.check = .ok k) :
    k.Admitted := by
  obtain ⟨f, -, h⟩ := bind_eq_ok.mp h
  obtain ⟨test, htest, h⟩ := bind_eq_ok.mp h
  cases h
  exact admitted_of_testOf htest

end Condition

namespace Predicate

open Outcome

theorem every_of_checkAll {P : Criterion → Prop} {parts : List Predicate} {ss : List Selection}
    (h : checkAll parts = .ok ss)
    (ih : ∀ p ∈ parts, ∀ {s : Selection}, p.check = .ok s → s.Every P) :
    ∀ s ∈ ss, s.Every P := by
  intro s hs
  obtain ⟨p, hp, hps⟩ := exists_of_mem_mapM (checkAll_eq_mapM parts ▸ h) s hs
  exact ih p hp hps

/-- **A checked predicate has admitted tests only.** -/
theorem every_admitted_of_check {p : Predicate} {s : Selection} (h : p.check = .ok s) :
    s.Every Criterion.Admitted := by
  induction p using inductionOnParts generalizing s with
  | all =>
    cases (check_all ▸ h)
    exact .all
  | leaf c =>
    obtain ⟨k, hk, rfl⟩ := map_eq_ok.mp (check_leaf c ▸ h)
    exact .criterion (Condition.admitted_of_check hk)
  | and parts ih =>
    obtain ⟨ss, hss, rfl⟩ := map_eq_ok.mp (check_and parts ▸ h)
    exact .and (every_of_checkAll hss ih)
  | or parts ih =>
    obtain ⟨ss, hss, rfl⟩ := map_eq_ok.mp (check_or parts ▸ h)
    exact .or (every_of_checkAll hss ih)
  | not part ih =>
    obtain ⟨s, hs, rfl⟩ := map_eq_ok.mp (check_not part ▸ h)
    exact .not (ih hs)

end Predicate

end Readership

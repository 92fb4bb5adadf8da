import Readership.Proofs.Filter.Operators

/-!
# The field that a fault names

A condition that does not pass the check leaves a fault that names a field, and whoever
wrote the condition has to find it again. A path that names no field is given back as it is
written. A literal is looked at in two places. The condition itself refuses what its
operator cannot have – null in an order, something else than a list where one is searched,
something else than a scalar as a pattern – and names the field as it is written. The field
refuses a literal that is no value of it, alone or in a list, and names itself in full.

`Condition.Refuses` lists these faults, and they are all there are
(`Condition.testOf_eq_error_iff`). So an abbreviation, a dot or white space of a path is
given back by the faults of the first kind only (`Condition.check_names_field`).
-/

namespace Readership

open Outcome

/-- **What a literal is not**, if a field does not read it. -/
def Field.misreading (f : Field) (literal : Json) : Mismatch :=
  match f.kind with
  | .integer => .notAnInteger literal
  | .text => .notAText literal
  | .timestamp => .notAnInstant literal

/-- Whether a literal was no value of its field. -/
def Mismatch.isMisreading : Mismatch → Bool
  | .notAnInteger _ | .notAText _ | .notAnInstant _ => true
  | .nullComparison _ | .notAList _ | .notAPattern _ => false

/-- **A literal of a field or null**, which each field has a value for. -/
def Field.Knows (f : Field) (literal : Json) : Prop :=
  literal = .null ∨ f.Reads literal

/-- **Why a field does not take the literal of a condition**, as a fault. -/
inductive Condition.Refuses (c : Condition) (f : Field) : Fault → Prop where
  /-- A literal that is compared is no value of the field. -/
  | literal (hop : c.operator ≠ .isIn ∧ c.operator ≠ .contains) (hvalue : ¬ f.Knows c.value) :
    Refuses c f (.mismatch f.path (f.misreading c.value))
  /-- Null has no place in an order. -/
  | nullOrder (hop : c.operator ∈ Operator.ordering) (hvalue : c.value = .null) :
    Refuses c f (.mismatch c.field (.nullComparison c.operator))
  /-- Only a list is searched for a value. -/
  | notAList (hop : c.operator = .isIn) (hvalue : ∀ items, c.value ≠ .arr items) :
    Refuses c f (.mismatch c.field (.notAList c.value))
  /-- The first item of a list that is no value of the field. -/
  | item {before : List Json} {item : Json} {after : List Json} (hop : c.operator = .isIn)
    (hvalue : c.value = .arr (before ++ item :: after)) (hbefore : ∀ b ∈ before, f.Knows b)
    (hitem : ¬ f.Knows item) : Refuses c f (.mismatch f.path (f.misreading item))
  /-- Only a scalar is a pattern. -/
  | notAPattern (hop : c.operator = .contains) (hvalue : Field.scalarText? c.value = none) :
    Refuses c f (.mismatch c.field (.notAPattern c.value))

namespace Field

variable {f : Field} {literal : Json} {fault : Fault}

/-- **A field names itself in full** in a fault. -/
theorem fault_of_coerce (h : f.coerce literal = .error fault) :
    fault = .mismatch f.path (f.misreading literal) := by
  unfold coerce at h
  split at h
  next => cases h
  all_goals
    next hkind =>
      rw [misreading, hkind]
      split at h
      next => cases h
      next =>
        cases h
        rfl

/-- A literal has a fault where it is no value of the field. -/
theorem coerce_eq_error_iff :
    f.coerce literal = .error fault
      ↔ ¬ f.Knows literal ∧ fault = .mismatch f.path (f.misreading literal) := by
  rw [Knows, ← f.exists_coerce_iff, ← exists_eq_error_iff]
  constructor
  · exact fun h => ⟨⟨fault, h⟩, fault_of_coerce h⟩
  · rintro ⟨⟨e, he⟩, rfl⟩
    rw [he, fault_of_coerce he]

/-- **A list of literals** has the fault of the first that is no value of the field. -/
theorem mapM_coerce_eq_error_iff {items : List Json} :
    items.mapM f.coerce = .error fault
      ↔ ∃ before item after, items = before ++ item :: after ∧ (∀ b ∈ before, f.Knows b) ∧
        ¬ f.Knows item ∧ fault = .mismatch f.path (f.misreading item) := by
  simp only [mapM_eq_error_iff, coerce_eq_error_iff, exists_coerce_iff]
  rfl

end Field

namespace Condition

variable {c : Condition} {f : Field} {fault : Fault}

/-- **A literal that has no place in an order** is no value of the field, or null. -/
theorem ordered_eq_error_iff :
    c.ordered f = .error fault
      ↔ (¬ f.Knows c.value ∧ fault = .mismatch f.path (f.misreading c.value)) ∨
        (c.value = .null ∧ fault = .mismatch c.field (.nullComparison c.operator)) := by
  rw [ordered, bind_eq_error, Field.coerce_eq_error_iff]
  refine or_congr_right ⟨?_, ?_⟩
  · rintro ⟨a, ha, h⟩
    split at h
    next hnull =>
      cases h
      exact ⟨Field.coerce_eq_null_iff.mp (FieldValue.isNull_iff.mp hnull ▸ ha), rfl⟩
    next => cases h
  · rintro ⟨hnull, rfl⟩
    exact ⟨.null, Field.coerce_eq_null_iff.mpr hnull, rfl⟩

/-- **A fault of a literal** is one of those that are listed. -/
theorem refuses_of_testOf (h : c.testOf f = .error fault) : c.Refuses f fault := by
  obtain ⟨path, op, value⟩ := c
  cases op with
  | eq | ne =>
    obtain ⟨hvalue, rfl⟩ := Field.coerce_eq_error_iff.mp (map_eq_error.mp h)
    exact .literal (by simp) hvalue
  | gt | gte | lt | lte =>
    rcases ordered_eq_error_iff.mp (map_eq_error.mp h) with ⟨hvalue, rfl⟩ | ⟨hvalue, rfl⟩
    · exact .literal (by simp) hvalue
    · exact .nullOrder (by simp [Operator.ordering]) hvalue
  | isIn =>
    cases value with
    | arr items =>
      obtain ⟨before, item, after, hitems, hbefore, hitem, rfl⟩ :=
        Field.mapM_coerce_eq_error_iff.mp (map_eq_error.mp h)
      exact .item rfl (congrArg Json.arr hitems) hbefore hitem
    | _ =>
      cases h
      exact .notAList rfl (by simp)
  | contains =>
    simp only [testOf] at h
    cases hvalue : Field.scalarText? value with
    | some s =>
      rw [hvalue] at h
      cases h
    | none =>
      rw [hvalue] at h
      cases h
      exact .notAPattern rfl hvalue

/-- **Each fault that is listed** is the fault of the literals it is listed for. -/
theorem testOf_of_refuses (h : c.Refuses f fault) : c.testOf f = .error fault := by
  obtain ⟨path, op, value⟩ := c
  cases h with
  | literal hop hvalue =>
    have hcoerce := Field.coerce_eq_error_iff.mpr ⟨hvalue, rfl⟩
    have hordered := ordered_eq_error_iff.mpr (.inl ⟨hvalue, rfl⟩)
    cases op with
    | eq | ne => exact map_eq_error.mpr hcoerce
    | gt | gte | lt | lte => exact map_eq_error.mpr hordered
    | isIn => exact absurd rfl hop.1
    | contains => exact absurd rfl hop.2
  | nullOrder hop hvalue =>
    have hordered : Condition.ordered ⟨path, op, value⟩ f = _ :=
      ordered_eq_error_iff.mpr (.inr ⟨hvalue, rfl⟩)
    cases op with
    | gt | gte | lt | lte => exact map_eq_error.mpr hordered
    | _ => simp [Operator.ordering] at hop
  | notAList hop hvalue =>
    cases hop
    cases value with
    | arr items => exact absurd rfl (hvalue items)
    | _ => rfl
  | item hop hvalue hbefore hitem =>
    cases hop
    cases hvalue
    exact map_eq_error.mpr
      (Field.mapM_coerce_eq_error_iff.mpr ⟨_, _, _, rfl, hbefore, hitem, rfl⟩)
  | notAPattern hop hvalue =>
    cases hop
    simp only [testOf]
    rw [hvalue]

/-- **The path of a fault**: as the condition has it, or in full if the field did not read
the literal. -/
theorem Refuses.exists_mismatch (h : c.Refuses f fault) :
    ∃ cause, fault = .mismatch (if cause.isMisreading then f.path else c.field) cause := by
  have hmisreading (literal : Json) : (f.misreading literal).isMisreading = true := by
    rw [Field.misreading]
    cases f.kind <;> rfl
  cases h with
  | literal => exact ⟨f.misreading c.value, by rw [hmisreading]; rfl⟩
  | item => exact ⟨_, by rw [hmisreading]; rfl⟩
  | nullOrder => exact ⟨.nullComparison c.operator, rfl⟩
  | notAList => exact ⟨.notAList c.value, rfl⟩
  | notAPattern => exact ⟨.notAPattern c.value, rfl⟩

/-- Under a path of a field the faults of a check are those of the literal. -/
theorem check_eq_error_iff_refuses (hf : Field.ofPath? c.field = some f) :
    c.check = .error fault ↔ c.Refuses f fault := by
  have hparse : Field.parse c.field = .ok f := by rw [Field.parse, hf]
  rw [check, hparse]
  show (c.testOf f >>= fun test => Except.ok (Criterion.mk f test)) = _ ↔ _
  rw [bind_eq_error]
  constructor
  · rintro (h | ⟨_, -, h⟩)
    · exact refuses_of_testOf h
    · cases h
  · exact fun h => .inl (testOf_of_refuses h)

/-- A path that names no field is given back. -/
theorem check_of_unknown (hf : Field.ofPath? c.field = none) :
    c.check = .error (.field c.field) := by
  have hparse : Field.parse c.field = .error (.field c.field) := by rw [Field.parse, hf]
  rw [check, hparse]
  rfl

/-- **Which field a fault names.** A condition whose path names no field is refused with the
path as it is written. Any other one is refused with the faults that are listed for its
literal, and they name the field by the path as it is written, unless the field did not read
the literal or an item of it: then by the full path of the field. So the path is given back
as it is written exactly if it is the full path or the literal was not looked at by the
field. -/
theorem check_names_field (c : Condition) :
    (Field.ofPath? c.field = none → c.check = .error (.field c.field)) ∧
    ∀ f, Field.ofPath? c.field = some f →
      (∀ fault, c.check = .error fault ↔ c.Refuses f fault) ∧
      (∀ fault, c.check = .error fault → ∃ path cause, fault = .mismatch path cause ∧
        path = if cause.isMisreading then f.path else c.field) ∧
      ∀ path cause, c.check = .error (.mismatch path cause) →
        (path = c.field ↔ cause.isMisreading = false ∨ c.field = f.path) := by
  have hpath {f : Field} (hf : Field.ofPath? c.field = some f) {fault : Fault}
      (h : c.check = .error fault) :
      ∃ cause, fault = .mismatch (if cause.isMisreading then f.path else c.field) cause :=
    ((check_eq_error_iff_refuses hf).mp h).exists_mismatch
  refine ⟨check_of_unknown, fun f hf => ⟨fun fault => check_eq_error_iff_refuses hf,
    fun fault h => ?_, fun path cause h => ?_⟩⟩
  · obtain ⟨cause, rfl⟩ := hpath hf h
    exact ⟨_, cause, rfl, rfl⟩
  · obtain ⟨cause', heq⟩ := hpath hf h
    cases heq
    cases cause.isMisreading <;> simp [eq_comm]

/-- A list for the owner of a blog with null before a list within it, under a short path with
a dot and blanks. -/
theorem check_names_field_nestedList :
    Field.ofPath? " blog.user " = some .blogOwner ∧
      Condition.check ⟨" blog.user ", .isIn, .arr [.null, .arr []]⟩
        = .error (.mismatch "blog__user__id" (.notAText (.arr []))) := by
  have hf : Field.ofPath? " blog.user " = some .blogOwner := by decide +kernel
  have hbefore : ∀ b ∈ [Json.null], Field.blogOwner.Knows b := by simp [Field.Knows]
  have hitem : ¬ Field.blogOwner.Knows (.arr []) := by
    simp [Field.Knows, Field.Reads, Field.kind, Field.scalarText?]
  obtain ⟨c, hc⟩ : ∃ c : Condition, c = ⟨" blog.user ", .isIn, .arr [.null, .arr []]⟩ := ⟨_, rfl⟩
  have hlisted := (((check_names_field c).2 .blogOwner (hc ▸ hf)).1
    (.mismatch "blog__user__id" (.notAText (.arr [])))).mpr
  rw [← hc]
  refine ⟨hf, hlisted ?_⟩
  rw [hc]
  exact .item rfl rfl hbefore hitem

/-- **The path is not always given back**: a text for the number of a blog is refused under
another path than the one that is written. -/
theorem check_not_names_written :
    ¬ ∀ (c : Condition) (f : Field), Field.ofPath? c.field = some f → ∀ fault,
      c.check = .error fault → ∃ cause, fault = .mismatch c.field cause := by
  intro h
  have hf : Field.ofPath? "blog" = some .blogId := by decide +kernel
  obtain ⟨cause, hcause⟩ := h ⟨"blog", .eq, .str "x"⟩ .blogId hf
    (.mismatch "blog__id" (.notAnInteger (.str "x"))) rfl
  exact absurd (Fault.mismatch.inj hcause).1 (by decide)

end Condition

end Readership

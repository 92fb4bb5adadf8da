import Readership.Proofs.Filter.Truth

/-!
# What the constructors say

Predicates can be written down in any shape: a conjunction or a disjunction may have one part
or none, and a negation may be negated again. Of a record such a predicate says what its
shape says, and nothing holds of a disjunction without parts. The constructors take
predicates of any shape and are *and*, *or* and *not* of what these say
(`Predicate.constructors_evaluate`), with one exception.

A disjunction of nothing is to restrict nothing, so `disj` of no predicates is true. But
`disj` looks whether there is nothing only after it has taken in the parts of disjunctions.
Where it is given disjunctions without parts and nothing else, it finds nothing as well, and
predicates that hold of no record become one that holds of every record
(`Predicate.disj_not_any`).
-/

namespace Readership.Predicate

/-- **What a predicate says of a record**: it passes the check, and the selection that it
gives holds of the record or does not. -/
def Evaluates (r : ViewRecord) (p : Predicate) (value : Bool) : Prop :=
  ∃ s, p.check = .ok s ∧ s.holds r = value

variable {r : ViewRecord} {p : Predicate} {parts : List Predicate} {v : Bool} {values : List Bool}

/-- What a predicate says is its truth, if its conditions pass the check. -/
theorem evaluates_iff :
    Evaluates r p v
      ↔ (∀ c ∈ p.conditions, ∃ k, c.check = .ok k) ∧ p.truth (Condition.passes r) = v := by
  rw [← check_eq_ok_iff]
  constructor
  · rintro ⟨s, hs, hv⟩
    exact ⟨⟨s, hs⟩, (holds_of_check r hs).symm.trans hv⟩
  · rintro ⟨⟨s, hs⟩, hv⟩
    exact ⟨s, hs, (holds_of_check r hs).trans hv⟩

/-- What several predicates say, one by one. -/
theorem forall₂_evaluates (h : List.Forall₂ (Evaluates r) parts values) :
    (∀ c ∈ parts.flatMap conditions, ∃ k, c.check = .ok k)
      ∧ parts.map (truth (Condition.passes r)) = values := by
  induction h with
  | nil => exact ⟨fun _ hc => (nomatch hc), rfl⟩
  | cons hp _ ih =>
    obtain ⟨hconditions, htruth⟩ := evaluates_iff.mp hp
    rw [List.flatMap_cons, List.forall_mem_append, List.map_cons, htruth, ih.2]
    exact ⟨⟨hconditions, ih.1⟩, rfl⟩

/-- **A conjunction says that all say so.** -/
theorem evaluates_conj (h : List.Forall₂ (Evaluates r) parts values) :
    Evaluates r (conj parts) (values.all id) := by
  obtain ⟨hconditions, hvalues⟩ := forall₂_evaluates h
  rw [evaluates_iff, conditions_conj, truth_conj, ← hvalues, List.all_map]
  exact ⟨hconditions, rfl⟩

/-- Only a disjunction without parts adds nothing to a disjunction. -/
theorem disjuncts_eq_nil_iff : p.disjuncts = [] ↔ p = .or [] := by
  cases p <;> simp [disjuncts]

/-- **A disjunction says that one says so**, unless nothing is added to it. -/
theorem evaluates_disj (h : List.Forall₂ (Evaluates r) parts values) :
    Evaluates r (disj parts) ((parts.flatMap disjuncts).isEmpty || values.any id) := by
  obtain ⟨hconditions, hvalues⟩ := forall₂_evaluates h
  rw [evaluates_iff, conditions_disj, truth_disj, ← hvalues, List.any_map]
  exact ⟨hconditions, rfl⟩

/-- **A negation says the opposite.** -/
theorem evaluates_negate (h : Evaluates r p v) : Evaluates r p.negate (!v) := by
  obtain ⟨hconditions, rfl⟩ := evaluates_iff.mp h
  rw [evaluates_iff, conditions_negate, truth_negate]
  exact ⟨hconditions, rfl⟩

/-- A condition that is added says something as well. -/
theorem evaluates_withCondition {c : Condition} {w : Bool} (hp : Evaluates r p v)
    (hc : Evaluates r (.leaf c) w) : Evaluates r (p.withCondition c) (v && w) := by
  have h := evaluates_conj (.cons hp (.cons hc .nil))
  rwa [List.all_cons, List.all_cons, List.all_nil, Bool.and_true] at h

/-- **What the constructors say** of predicates of any shape that pass the check. A
conjunction says that all say so, a negation says the opposite, and an added condition has to
be true as well. A disjunction says that one says so if one of them is not a disjunction
without parts, and otherwise it holds of every record. -/
theorem constructors_evaluate (h : List.Forall₂ (Evaluates r) parts values) :
    Evaluates r (conj parts) (values.all id)
      ∧ ((∃ p ∈ parts, p ≠ .or []) → Evaluates r (disj parts) (values.any id))
      ∧ ((∀ p ∈ parts, p = .or []) → Evaluates r (disj parts) true)
      ∧ ∀ p v, Evaluates r p v → Evaluates r p.negate (!v)
        ∧ ∀ c w, Evaluates r (.leaf c) w → Evaluates r (p.withCondition c) (v && w) := by
  have hempty : (parts.flatMap disjuncts).isEmpty = true ↔ ∀ p ∈ parts, p = .or [] := by
    simp only [List.isEmpty_iff, List.flatMap_eq_nil_iff, disjuncts_eq_nil_iff]
  have hdisj := evaluates_disj h
  refine ⟨evaluates_conj h, fun hpart => ?_, fun hall => ?_, fun p v hp =>
    ⟨evaluates_negate hp, fun c w => evaluates_withCondition hp⟩⟩
  · obtain ⟨p, hp, hne⟩ := hpart
    have hsome : (parts.flatMap disjuncts).isEmpty = false :=
      Bool.eq_false_iff.mpr fun hnil => hne (hempty.mp hnil p hp)
    rwa [hsome, Bool.false_or] at hdisj
  · rwa [hempty.mpr hall, Bool.true_or] at hdisj

/-- Beside a conjunction without parts, a disjunction without parts does no harm. -/
theorem constructors_evaluate_withoutParts :
    Evaluates (fun _ => .null) (conj [.or [], .not (.not (.and []))]) false
      ∧ Evaluates (fun _ => .null) (disj [.or [], .not (.not (.and []))]) true := by
  have h : List.Forall₂ (Evaluates fun _ => .null) [.or [], .not (.not (.and []))]
      [false, true] :=
    .cons ⟨.or [], rfl, rfl⟩ (.cons ⟨.not (.not (.and [])), rfl, rfl⟩ .nil)
  obtain ⟨hconj, hdisj, -⟩ := constructors_evaluate h
  exact ⟨hconj, hdisj ⟨_, List.mem_cons_of_mem _ List.mem_cons_self, nofun⟩⟩

/-- **A disjunction of what holds of nothing can hold of everything**: a single disjunction
without parts is enough. -/
theorem disj_not_any :
    ¬ ∀ (r : ViewRecord) (parts : List Predicate) (values : List Bool), parts ≠ [] →
      List.Forall₂ (Evaluates r) parts values → Evaluates r (disj parts) (values.any id) := by
  intro h
  obtain ⟨s, hs, hholds⟩ := h (fun _ => .null) [.or []] [false] (List.cons_ne_nil _ _)
    (.cons ⟨.or [], rfl, rfl⟩ .nil)
  cases hs
  cases hholds

end Readership.Predicate

import Readership.Proofs.Filter.Truth

/-!
# The normal form of predicates

A predicate is in normal form if its shape says everything once: a
conjunction or a disjunction has at least two parts, no part of a conjunction
is a conjunction or always true, no part of a disjunction is a disjunction,
and nothing is negated twice. The three constructors keep this form
(`IsNormal.conj`, `IsNormal.disj`, `IsNormal.negate`), so a predicate that is
built by them from conditions has it.

The form matters for more than looks. A disjunction without parts is false,
but where `disj` takes such a disjunction in, nothing of it is left, and a
disjunction of nothing is taken to be true. In normal form there is none, and
`disj` of several predicates in normal form is true exactly where one of them
is (`IsNormal.truth_disj_cons`).
-/

namespace Readership.Predicate

/-- **Predicates in normal form.** -/
inductive IsNormal : Predicate → Prop where
  | all : IsNormal all
  | leaf (c : Condition) : IsNormal (leaf c)
  | and {parts : List Predicate} (two : 2 ≤ parts.length) (normal : ∀ p ∈ parts, IsNormal p)
      (flat : ∀ p ∈ parts, p ≠ .all ∧ ∀ inner, p ≠ .and inner) : IsNormal (and parts)
  | or {parts : List Predicate} (two : 2 ≤ parts.length) (normal : ∀ p ∈ parts, IsNormal p)
      (flat : ∀ p ∈ parts, ∀ inner, p ≠ .or inner) : IsNormal (or parts)
  | not {part : Predicate} (normal : IsNormal part) (once : ∀ inner, part ≠ .not inner) :
      IsNormal (not part)

namespace IsNormal

/-- What a predicate in normal form adds to a conjunction is in normal form
and may stand in one. -/
theorem of_mem_conjuncts {p q : Predicate} (hp : IsNormal p) (hq : q ∈ p.conjuncts) :
    IsNormal q ∧ q ≠ .all ∧ ∀ inner, q ≠ .and inner := by
  cases hp with
  | all => exact absurd hq List.not_mem_nil
  | and two normal flat => exact ⟨normal q hq, flat q hq⟩
  | leaf c =>
    cases List.mem_singleton.mp hq
    exact ⟨.leaf c, by simp, by simp⟩
  | or two normal flat =>
    cases List.mem_singleton.mp hq
    exact ⟨.or two normal flat, by simp, by simp⟩
  | not normal once =>
    cases List.mem_singleton.mp hq
    exact ⟨.not normal once, by simp, by simp⟩

/-- What a predicate in normal form adds to a disjunction is in normal form
and may stand in one. -/
theorem of_mem_disjuncts {p q : Predicate} (hp : IsNormal p) (hq : q ∈ p.disjuncts) :
    IsNormal q ∧ ∀ inner, q ≠ .or inner := by
  cases hp with
  | or two normal flat => exact ⟨normal q hq, flat q hq⟩
  | all =>
    cases List.mem_singleton.mp hq
    exact ⟨.all, by simp⟩
  | leaf c =>
    cases List.mem_singleton.mp hq
    exact ⟨.leaf c, by simp⟩
  | and two normal flat =>
    cases List.mem_singleton.mp hq
    exact ⟨.and two normal flat, by simp⟩
  | not normal once =>
    cases List.mem_singleton.mp hq
    exact ⟨.not normal once, by simp⟩

/-- A list that is neither empty nor of one part has two parts at least. -/
theorem two_le_length {parts : List Predicate} (hnil : parts ≠ [])
    (hone : ∀ p, parts ≠ [p]) : 2 ≤ parts.length := by
  match parts with
  | [] => exact absurd rfl hnil
  | [p] => exact absurd rfl (hone p)
  | _ :: _ :: _ => simp

/-- **A conjunction of normal predicates is normal.** -/
theorem conj {parts : List Predicate} (h : ∀ p ∈ parts, IsNormal p) :
    IsNormal (conj parts) := by
  have hflat : ∀ q ∈ parts.flatMap conjuncts,
      IsNormal q ∧ q ≠ .all ∧ ∀ inner, q ≠ .and inner := by
    intro q hq
    obtain ⟨p, hp, hqp⟩ := List.mem_flatMap.mp hq
    exact of_mem_conjuncts (h p hp) hqp
  rw [Predicate.conj]
  split
  next => exact .all
  next p hone => exact (hflat p (hone ▸ List.mem_singleton_self p)).1
  next hnil hone =>
    exact .and (two_le_length hnil hone) (fun q hq => (hflat q hq).1) (fun q hq => (hflat q hq).2)

/-- **A disjunction of normal predicates is normal.** -/
theorem disj {parts : List Predicate} (h : ∀ p ∈ parts, IsNormal p) :
    IsNormal (disj parts) := by
  have hflat : ∀ q ∈ parts.flatMap disjuncts, IsNormal q ∧ ∀ inner, q ≠ .or inner := by
    intro q hq
    obtain ⟨p, hp, hqp⟩ := List.mem_flatMap.mp hq
    exact of_mem_disjuncts (h p hp) hqp
  rw [Predicate.disj]
  split
  next => exact .all
  next p hone => exact (hflat p (hone ▸ List.mem_singleton_self p)).1
  next hnil hone =>
    exact .or (two_le_length hnil hone) (fun q hq => (hflat q hq).1) (fun q hq => (hflat q hq).2)

/-- **The negation of a normal predicate is normal.** -/
theorem negate {p : Predicate} (h : IsNormal p) : IsNormal p.negate := by
  cases h with
  | all => exact .not .all (by simp)
  | leaf c => exact .not (.leaf c) (by simp)
  | and two normal flat => exact .not (.and two normal flat) (by simp)
  | or two normal flat => exact .not (.or two normal flat) (by simp)
  | not normal once => exact normal

/-- A normal predicate always adds something to a disjunction. -/
theorem disjuncts_ne_nil {p : Predicate} (h : IsNormal p) : p.disjuncts ≠ [] := by
  cases h with
  | @or parts two normal flat =>
    intro hnil
    have hparts : parts = [] := hnil
    rw [hparts] at two
    exact absurd two (by simp)
  | _ => simp [disjuncts]

/-- **A disjunction of at least one normal predicate is true exactly where one
of them is.** -/
theorem truth_disj_cons (test : Condition → Bool) {p : Predicate} {rest : List Predicate}
    (h : IsNormal p) : truth test (Predicate.disj (p :: rest)) = (p :: rest).any (truth test) := by
  have hne : (p :: rest).flatMap disjuncts ≠ [] := by
    rw [List.flatMap_cons]
    exact List.append_ne_nil_of_left_ne_nil h.disjuncts_ne_nil _
  rw [truth_disj, List.isEmpty_eq_false_iff.mpr hne, Bool.false_or]

end IsNormal

end Readership.Predicate

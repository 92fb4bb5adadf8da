import Readership.Filter.Selection
import Readership.Proofs.Outcome

/-!
# The truth of a predicate

What a predicate says depends on its conditions alone: once every condition
is true or false, the predicate is. `Predicate.truth` reads it that way, for
any assignment of truth to conditions, and everything else about predicates
is stated against it.

Two things are. The constructors that keep predicates small – `conj`, `disj`
and `negate` – are *and*, *or* and *not* of truth, whatever the shape of
their arguments, and they keep every condition in its place. The only
exception is a disjunction of nothing, which is true. And checking neither
adds nor loses anything: it stops at the first condition that does not pass
(`Predicate.verdict_check`), and the selection it gives otherwise holds of a
record exactly where the predicate is true of it
(`Predicate.holds_of_check`).
-/

namespace Readership

namespace Predicate

/-- **Induction over predicates**, with the parts of a conjunction or a
disjunction taken one by one. -/
@[elab_as_elim]
theorem inductionOnParts {motive : Predicate → Prop} (p : Predicate)
    (all : motive all) (leaf : ∀ c, motive (leaf c))
    (and : ∀ parts, (∀ p ∈ parts, motive p) → motive (and parts))
    (or : ∀ parts, (∀ p ∈ parts, motive p) → motive (or parts))
    (not : ∀ part, motive part → motive (not part)) : motive p :=
  match p with
  | .all => all
  | .leaf c => leaf c
  | .and parts => and parts fun p _ => inductionOnParts p all leaf and or not
  | .or parts => or parts fun p _ => inductionOnParts p all leaf and or not
  | .not part => not part (inductionOnParts part all leaf and or not)

mutual

/-- **The truth of a predicate**, given the truth of its conditions. -/
def truth (test : Condition → Bool) : Predicate → Bool
  | all => true
  | leaf c => test c
  | and parts => allTrue test parts
  | or parts => anyTrue test parts
  | not part => !truth test part

/-- Whether several predicates are all true. -/
def allTrue (test : Condition → Bool) : List Predicate → Bool
  | [] => true
  | p :: rest => truth test p && allTrue test rest

/-- Whether one of several predicates is true. -/
def anyTrue (test : Condition → Bool) : List Predicate → Bool
  | [] => false
  | p :: rest => truth test p || anyTrue test rest

end

theorem allTrue_eq_all (test : Condition → Bool) (parts : List Predicate) :
    allTrue test parts = parts.all (truth test) := by
  induction parts with
  | nil => simp [allTrue]
  | cons p rest ih => simp [allTrue, ih]

theorem anyTrue_eq_any (test : Condition → Bool) (parts : List Predicate) :
    anyTrue test parts = parts.any (truth test) := by
  induction parts with
  | nil => simp [anyTrue]
  | cons p rest ih => simp [anyTrue, ih]

variable (test : Condition → Bool)

@[simp] theorem truth_all : truth test all = true := by simp [truth]

@[simp] theorem truth_leaf (c : Condition) : truth test (leaf c) = test c := by
  simp [truth]

@[simp] theorem truth_and (parts : List Predicate) :
    truth test (and parts) = parts.all (truth test) := by
  rw [truth, allTrue_eq_all]

@[simp] theorem truth_or (parts : List Predicate) :
    truth test (or parts) = parts.any (truth test) := by
  rw [truth, anyTrue_eq_any]

@[simp] theorem truth_not (part : Predicate) :
    truth test (not part) = !truth test part := by simp [truth]

/-! ## The constructors -/

/-- What a predicate adds to a conjunction is true together exactly where the
predicate is. -/
theorem all_truth_conjuncts (p : Predicate) :
    p.conjuncts.all (truth test) = p.truth test := by
  cases p <;> simp [conjuncts]

/-- What a predicate adds to a disjunction is true somewhere exactly where the
predicate is. -/
theorem any_truth_disjuncts (p : Predicate) :
    p.disjuncts.any (truth test) = p.truth test := by
  cases p <;> simp [disjuncts]

/-- **A conjunction is true where all its parts are**, although it drops and
merges parts. -/
theorem truth_conj (parts : List Predicate) :
    truth test (conj parts) = parts.all (truth test) := by
  have hflat : (parts.flatMap conjuncts).all (truth test) = parts.all (truth test) := by
    rw [List.all_flatMap]
    exact congrArg parts.all (funext (all_truth_conjuncts test))
  rw [← hflat, conj]
  split
  next h => rw [h, truth_all, List.all_nil]
  next p h => rw [h, List.all_cons, List.all_nil, Bool.and_true]
  next => rw [truth_and]

/-- **A disjunction is true where one of its parts is**, and of nothing it is
true as well. -/
theorem truth_disj (parts : List Predicate) :
    truth test (disj parts) = ((parts.flatMap disjuncts).isEmpty || parts.any (truth test)) := by
  have hflat : (parts.flatMap disjuncts).any (truth test) = parts.any (truth test) := by
    rw [List.any_flatMap]
    exact congrArg parts.any (funext (any_truth_disjuncts test))
  rw [← hflat, disj]
  split
  next h => rw [h]; rfl
  next p h => rw [h, List.any_cons, List.any_nil, Bool.or_false]; rfl
  next hnil _ =>
    rw [truth_or, List.isEmpty_eq_false_iff.mpr hnil, Bool.false_or]

/-- **A negation is the complement**, also where it undoes another one. -/
theorem truth_negate (p : Predicate) : truth test p.negate = !truth test p := by
  cases p <;> simp [negate]

/-- **A condition that is added** has to be true as well. -/
theorem truth_withCondition (p : Predicate) (c : Condition) :
    truth test (p.withCondition c) = (p.truth test && test c) := by
  rw [withCondition, truth_conj, List.all_cons, List.all_cons, List.all_nil, Bool.and_true,
    truth_leaf]

/-- Conditions that are added one after the other all have to be true. -/
theorem truth_foldl_withCondition (cs : List Condition) (p : Predicate) :
    truth test (cs.foldl withCondition p) = (p.truth test && cs.all test) := by
  induction cs generalizing p with
  | nil => rw [List.foldl_nil, List.all_nil, Bool.and_true]
  | cons c cs ih =>
    rw [List.foldl_cons, ih, truth_withCondition, List.all_cons, Bool.and_assoc]

/-! ## The conditions, in their places -/

/-- A predicate adds its conditions to a conjunction, in order. -/
theorem conditions_conjuncts (p : Predicate) :
    p.conjuncts.flatMap conditions = p.conditions := by
  cases p <;> simp [conjuncts, conditionsOf_eq_flatMap]

/-- A predicate adds its conditions to a disjunction, in order. -/
theorem conditions_disjuncts (p : Predicate) :
    p.disjuncts.flatMap conditions = p.conditions := by
  cases p <;> simp [disjuncts, conditionsOf_eq_flatMap]

/-- **A conjunction loses no condition** of its parts. -/
theorem conditions_conj (parts : List Predicate) :
    (conj parts).conditions = parts.flatMap conditions := by
  have hflat : (parts.flatMap conjuncts).flatMap conditions = parts.flatMap conditions := by
    rw [List.flatMap_assoc]
    exact congrArg (parts.flatMap ·) (funext conditions_conjuncts)
  rw [← hflat, conj]
  split
  next h => rw [h]; simp
  next p h => rw [h]; simp
  next => rw [conditions_and, conditionsOf_eq_flatMap]

/-- **A disjunction loses no condition** of its parts. -/
theorem conditions_disj (parts : List Predicate) :
    (disj parts).conditions = parts.flatMap conditions := by
  have hflat : (parts.flatMap disjuncts).flatMap conditions = parts.flatMap conditions := by
    rw [List.flatMap_assoc]
    exact congrArg (parts.flatMap ·) (funext conditions_disjuncts)
  rw [← hflat, disj]
  split
  next h => rw [h]; simp
  next p h => rw [h]; simp
  next => rw [conditions_or, conditionsOf_eq_flatMap]

/-- A negation keeps the conditions of what it negates. -/
theorem conditions_negate (p : Predicate) : p.negate.conditions = p.conditions := by
  cases p <;> simp [negate]

/-- A condition that is added comes last. -/
theorem conditions_withCondition (p : Predicate) (c : Condition) :
    (p.withCondition c).conditions = p.conditions ++ [c] := by
  rw [withCondition, conditions_conj]
  simp

/-- Conditions that are added one after the other come last, in order. -/
theorem conditions_foldl_withCondition (cs : List Condition) (p : Predicate) :
    (cs.foldl withCondition p).conditions = p.conditions ++ cs := by
  induction cs generalizing p with
  | nil => rw [List.foldl_nil, List.append_nil]
  | cons c cs ih =>
    rw [List.foldl_cons, ih, conditions_withCondition, List.append_assoc, List.singleton_append]

/-! ## Checking -/

open Outcome

theorem checkAll_eq_mapM (parts : List Predicate) : checkAll parts = parts.mapM check := by
  induction parts with
  | nil => simp [checkAll, pure, Except.pure]
  | cons p rest ih => simp [checkAll, ih]

/-- Checking several predicates goes through the conditions of one after the
other. -/
theorem verdict_checkAll {parts : List Predicate}
    (h : ∀ p ∈ parts, verdict p.check = forM p.conditions fun c => verdict c.check) :
    verdict (checkAll parts) = forM (parts.flatMap conditions) fun c => verdict c.check := by
  induction parts with
  | nil => rfl
  | cons p rest ih =>
    rw [checkAll, List.flatMap_cons, List.forM_append, ← h p List.mem_cons_self,
      ← ih fun q hq => h q (List.mem_cons_of_mem p hq)]
    exact verdict_bind _ _ _ fun s => verdict_map (checkAll rest) (s :: ·)

/-- **Checking goes through the conditions** from left to right: it passes
where all of them do and otherwise ends with the fault of the first that does
not. -/
theorem verdict_check (p : Predicate) :
    verdict p.check = forM p.conditions fun c => verdict c.check := by
  induction p using inductionOnParts with
  | all => rfl
  | leaf c =>
    rw [check_leaf, verdict_map, conditions_leaf, List.forM_cons, List.forM_nil]
    exact (bind_pure (verdict c.check)).symm
  | and parts ih =>
    rw [check_and, verdict_map, conditions_and, conditionsOf_eq_flatMap]
    exact verdict_checkAll ih
  | or parts ih =>
    rw [check_or, verdict_map, conditions_or, conditionsOf_eq_flatMap]
    exact verdict_checkAll ih
  | not part ih => rw [check_not, verdict_map, ih, conditions_not]

/-- A predicate passes the check where each of its conditions does. -/
theorem check_eq_ok_iff (p : Predicate) :
    (∃ s, p.check = .ok s) ↔ ∀ c ∈ p.conditions, ∃ k, c.check = .ok k := by
  rw [← verdict_eq_ok, verdict_check]
  induction p.conditions with
  | nil => simp [pure, Except.pure]
  | cons c rest ih =>
    rw [List.forM_cons, List.forall_mem_cons, ← ih, bind_eq_ok, ← verdict_eq_ok]
    exact ⟨fun ⟨_, hc, hrest⟩ => ⟨hc, hrest⟩, fun ⟨hc, hrest⟩ => ⟨(), hc, hrest⟩⟩

end Predicate

/-- **Whether a record passes a condition**: the condition passes the check and
the record its test. -/
def Condition.passes (r : ViewRecord) (c : Condition) : Bool :=
  match c.check with
  | .ok k => k.holds r
  | .error _ => false

/-- **Every field answers to its own path.** -/
theorem Field.parse_path (f : Field) : parse f.path = .ok f := by
  cases f <;> rfl

/-- A condition on a field becomes the test on that field. -/
theorem Condition.check_of_testOf {c : Condition} {f : Field} {test : Test}
    (hfield : Field.parse c.field = .ok f) (htest : c.testOf f = .ok test) :
    c.check = .ok ⟨f, test⟩ :=
  Outcome.bind_eq_ok.mpr ⟨f, hfield, Outcome.bind_eq_ok.mpr ⟨test, htest, rfl⟩⟩

namespace Predicate

open Outcome

/-- Checked predicates hold together where they are true together. -/
theorem map_holds_of_checkAll (r : ViewRecord) {parts : List Predicate} {ss : List Selection}
    (h : checkAll parts = .ok ss)
    (ih : ∀ p ∈ parts, ∀ {s : Selection}, p.check = .ok s →
      s.holds r = p.truth (Condition.passes r)) :
    ss.map (Selection.holds r) = parts.map (truth (Condition.passes r)) := by
  rw [checkAll_eq_mapM, mapM_eq_ok] at h
  induction h with
  | nil => rfl
  | @cons p s parts ss hp _ ihrest =>
    rw [List.map_cons, List.map_cons, ih p List.mem_cons_self hp,
      ihrest fun q hq => ih q (List.mem_cons_of_mem p hq)]

/-- **A checked predicate holds where it is true.** -/
theorem holds_of_check (r : ViewRecord) {p : Predicate} {s : Selection} (h : p.check = .ok s) :
    s.holds r = p.truth (Condition.passes r) := by
  induction p using inductionOnParts generalizing s with
  | all =>
    rw [check_all] at h
    cases h
    rw [Selection.holds_all, truth_all]
  | leaf c =>
    obtain ⟨k, hk, rfl⟩ := map_eq_ok.mp (check_leaf c ▸ h)
    rw [Selection.holds_criterion, truth_leaf, Condition.passes, hk]
  | and parts ih =>
    obtain ⟨ss, hss, rfl⟩ := map_eq_ok.mp (check_and parts ▸ h)
    rw [Selection.holds_and, Selection.allHold_eq_all, truth_and]
    show ss.all (id ∘ Selection.holds r) = parts.all (id ∘ truth (Condition.passes r))
    rw [← List.all_map, ← List.all_map, map_holds_of_checkAll r hss ih]
  | or parts ih =>
    obtain ⟨ss, hss, rfl⟩ := map_eq_ok.mp (check_or parts ▸ h)
    rw [Selection.holds_or, Selection.anyHolds_eq_any, truth_or]
    show ss.any (id ∘ Selection.holds r) = parts.any (id ∘ truth (Condition.passes r))
    rw [← List.any_map, ← List.any_map, map_holds_of_checkAll r hss ih]
  | not part ih =>
    obtain ⟨s, hs, rfl⟩ := map_eq_ok.mp (check_not part ▸ h)
    rw [Selection.holds_not, truth_not, ih hs]

end Predicate

end Readership

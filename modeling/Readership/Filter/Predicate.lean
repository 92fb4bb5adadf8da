import Readership.Filter.Condition

/-!
# Predicates

A predicate combines conditions with *and*, *or* and *not*. Predicates are
built by three functions that keep them small: a conjunction takes in the
parts of conjunctions among its parts and drops parts that always hold, a
disjunction takes in the parts of disjunctions, a single part stands for
itself, and a negation undoes a negation. None of these steps loses a
condition.

A disjunction of nothing is taken to hold, so that an empty list of
alternatives restricts nothing.
-/

namespace Readership

/-- **A predicate over views**, with conditions unchecked. -/
inductive Predicate where
  /-- Every view. -/
  | all
  | leaf (c : Condition)
  | and (parts : List Predicate)
  | or (parts : List Predicate)
  | not (part : Predicate)

instance : Inhabited Predicate := ⟨.all⟩

namespace Predicate

/-- What a predicate adds to a conjunction: nothing if it always holds, its
parts if it is a conjunction. -/
def conjuncts : Predicate → List Predicate
  | all => []
  | and parts => parts
  | p => [p]

/-- What a predicate adds to a disjunction. -/
def disjuncts : Predicate → List Predicate
  | or parts => parts
  | p => [p]

/-- **A conjunction** in its smallest form. -/
def conj (parts : List Predicate) : Predicate :=
  match parts.flatMap conjuncts with
  | [] => all
  | [p] => p
  | ps => and ps

/-- **A disjunction** in its smallest form. -/
def disj (parts : List Predicate) : Predicate :=
  match parts.flatMap disjuncts with
  | [] => all
  | [p] => p
  | ps => or ps

/-- **The opposite** of a predicate. -/
def negate : Predicate → Predicate
  | not p => p
  | p => not p

/-- A predicate that a condition is added to. -/
def withCondition (p : Predicate) (c : Condition) : Predicate :=
  conj [p, leaf c]

/-- Whether a predicate is the one that holds of every view by its form. -/
def isAll : Predicate → Bool
  | all => true
  | _ => false

mutual

/-- **The conditions of a predicate**, from left to right. -/
def conditions : Predicate → List Condition
  | all => []
  | leaf c => [c]
  | and parts => conditionsOf parts
  | or parts => conditionsOf parts
  | not part => conditions part

/-- The conditions of several predicates. -/
def conditionsOf : List Predicate → List Condition
  | [] => []
  | p :: rest => conditions p ++ conditionsOf rest

end

mutual

/-- A predicate as text. -/
def text : Predicate → String
  | all => "TRUE"
  | leaf c => c.text
  | and parts => "(" ++ Text.joinWith " AND " (texts parts) ++ ")"
  | or parts => "(" ++ Text.joinWith " OR " (texts parts) ++ ")"
  | not part => "NOT (" ++ text part ++ ")"

/-- The texts of several predicates. -/
def texts : List Predicate → List String
  | [] => []
  | p :: rest => text p :: texts rest

end

@[simp] theorem conditions_all : conditions all = [] := by simp [conditions]

@[simp] theorem conditions_leaf (c : Condition) : conditions (leaf c) = [c] := by
  simp [conditions]

@[simp] theorem conditions_and (parts : List Predicate) :
    conditions (and parts) = conditionsOf parts := by simp [conditions]

@[simp] theorem conditions_or (parts : List Predicate) :
    conditions (or parts) = conditionsOf parts := by simp [conditions]

@[simp] theorem conditions_not (part : Predicate) :
    conditions (not part) = conditions part := by simp [conditions]

theorem conditionsOf_eq_flatMap (parts : List Predicate) :
    conditionsOf parts = parts.flatMap conditions := by
  induction parts with
  | nil => simp [conditionsOf]
  | cons p rest ih => simp [conditionsOf, ih]

theorem texts_eq_map (parts : List Predicate) : texts parts = parts.map text := by
  induction parts with
  | nil => simp [texts]
  | cons p rest ih => simp [texts, ih]

end Predicate

end Readership

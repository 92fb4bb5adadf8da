import Readership.Filter.Predicate
import Readership.View.Literal

/-!
# Selections

A selection is a predicate that has been checked: every path is a field, every
literal has the kind of its field. Checking goes through the conditions from
left to right and stops at the first that does not pass; a selection can then
be held against any record without further doubt.

Null is a value like others for *equal* and *not equal*, so that these two stay
each other's opposite. It fulfils no ordering, no list and no substring.
-/

namespace Readership

/-- **What a field is tested for.** -/
inductive Test where
  | eq (literal : FieldValue)
  | ne (literal : FieldValue)
  | gt (literal : FieldValue)
  | gte (literal : FieldValue)
  | lt (literal : FieldValue)
  | lte (literal : FieldValue)
  | isIn (literals : List FieldValue)
  /-- A text to be found, in small letters. -/
  | contains (needle : String)
deriving DecidableEq

/-- **A test of one field.** -/
structure Criterion where
  field : Field
  test : Test
deriving DecidableEq

/-- **A predicate that has been checked.** -/
inductive Selection where
  | all
  | criterion (c : Criterion)
  | and (parts : List Selection)
  | or (parts : List Selection)
  | not (part : Selection)

instance : Inhabited Selection := ⟨.all⟩

/-- The values of the fields of one view. -/
abbrev ViewRecord : Type := Field → FieldValue

namespace Test

/-- Whether a value relates to a literal in an accepted way. -/
def related (value literal : FieldValue) (accept : Ordering → Bool) : Bool :=
  match value.compare? literal with
  | some o => accept o
  | none => false

/-- **Whether a value passes a test.** -/
def holds (value : FieldValue) : Test → Bool
  | eq literal => value == literal
  | ne literal => value != literal
  | gt literal => related value literal (· == .gt)
  | gte literal => related value literal (· != .lt)
  | lt literal => related value literal (· == .lt)
  | lte literal => related value literal (· != .gt)
  | isIn literals => literals.any fun literal => !literal.isNull && literal == value
  | contains needle =>
    match value.text? with
    | some s => Text.occursIn needle.toList (Text.lower s.toList)
    | none => false

end Test

/-- Whether a record passes the test of a field. -/
def Criterion.holds (c : Criterion) (r : ViewRecord) : Bool :=
  c.test.holds (r c.field)

namespace Selection

mutual

/-- **Whether a record is selected.** -/
def holds (r : ViewRecord) : Selection → Bool
  | all => true
  | criterion c => c.holds r
  | and parts => allHold r parts
  | or parts => anyHolds r parts
  | not part => !holds r part

/-- Whether all of several selections hold. -/
def allHold (r : ViewRecord) : List Selection → Bool
  | [] => true
  | s :: rest => holds r s && allHold r rest

/-- Whether one of several selections holds. -/
def anyHolds (r : ViewRecord) : List Selection → Bool
  | [] => false
  | s :: rest => holds r s || anyHolds r rest

end

@[simp] theorem holds_all (r : ViewRecord) : holds r all = true := by simp [holds]

@[simp] theorem holds_criterion (r : ViewRecord) (c : Criterion) :
    holds r (criterion c) = c.holds r := by simp [holds]

@[simp] theorem holds_and (r : ViewRecord) (parts : List Selection) :
    holds r (and parts) = allHold r parts := by simp [holds]

@[simp] theorem holds_or (r : ViewRecord) (parts : List Selection) :
    holds r (or parts) = anyHolds r parts := by simp [holds]

@[simp] theorem holds_not (r : ViewRecord) (part : Selection) :
    holds r (not part) = !holds r part := by simp [holds]

theorem allHold_eq_all (r : ViewRecord) (parts : List Selection) :
    allHold r parts = parts.all (holds r) := by
  induction parts with
  | nil => simp [allHold]
  | cons s rest ih => simp [allHold, ih]

theorem anyHolds_eq_any (r : ViewRecord) (parts : List Selection) :
    anyHolds r parts = parts.any (holds r) := by
  induction parts with
  | nil => simp [anyHolds]
  | cons s rest ih => simp [anyHolds, ih]

end Selection

namespace Condition

/-- A literal of a test that orders: null has no place in an order. -/
def ordered (c : Condition) (f : Field) : Except Fault FieldValue := do
  let literal ← f.coerce c.value
  if literal.isNull then .error (.mismatch c.field (.nullComparison c.operator))
  else pure literal

/-- The test that an operator and a literal make for a field. -/
def testOf (c : Condition) (f : Field) : Except Fault Test :=
  match c.operator with
  | .eq => (f.coerce c.value).map .eq
  | .ne => (f.coerce c.value).map .ne
  | .gt => (c.ordered f).map .gt
  | .gte => (c.ordered f).map .gte
  | .lt => (c.ordered f).map .lt
  | .lte => (c.ordered f).map .lte
  | .isIn =>
    match c.value with
    | .arr items => (items.mapM f.coerce).map .isIn
    | other => .error (.mismatch c.field (.notAList other))
  | .contains =>
    match Field.scalarText? c.value with
    | some needle => .ok (.contains (Text.lowercase needle))
    | none => .error (.mismatch c.field (.notAPattern c.value))

/-- **Checking a condition**: its path must be a field, then its literal must
fit. -/
def check (c : Condition) : Except Fault Criterion := do
  let f ← Field.parse c.field
  let test ← c.testOf f
  pure ⟨f, test⟩

end Condition

namespace Predicate

mutual

/-- **Checking a predicate.** The first condition that does not pass decides
the fault. -/
def check : Predicate → Except Fault Selection
  | all => .ok .all
  | leaf c => c.check.map .criterion
  | and parts => (checkAll parts).map .and
  | or parts => (checkAll parts).map .or
  | not part => (check part).map .not

/-- Checking predicates one after the other. -/
def checkAll : List Predicate → Except Fault (List Selection)
  | [] => .ok []
  | p :: rest => do
    let s ← check p
    let more ← checkAll rest
    pure (s :: more)

end

@[simp] theorem check_all : check all = .ok .all := by simp [check]

@[simp] theorem check_leaf (c : Condition) : check (leaf c) = c.check.map .criterion := by
  simp [check]

@[simp] theorem check_and (parts : List Predicate) :
    check (and parts) = (checkAll parts).map .and := by simp [check]

@[simp] theorem check_or (parts : List Predicate) :
    check (or parts) = (checkAll parts).map .or := by simp [check]

@[simp] theorem check_not (part : Predicate) :
    check (not part) = (check part).map .not := by simp [check]

end Predicate

end Readership

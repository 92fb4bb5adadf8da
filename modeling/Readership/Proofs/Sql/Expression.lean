import Readership.Proofs.Sql.Token
import Readership.Proofs.View.Conformance

/-!
# What an expression means

An expression is read from its tokens with the precedence of SQL – *not* before
*and*, *and* before *or*, parentheses before all of them – and has a value for
each row. A comparison with null is unknown, and the connectives carry the
unknown on where the other side does not decide (`Truth`). An expression without
a value at all, because it compares values of different kinds or calls a function
that is not there, is told apart from one that is unknown.

Columns and functions are what a server brings along: a row gives each column its
value, and functions are a parameter. What has to be known about them is stated
in `Documented`.
-/

namespace Readership.Sql

open Token

/-! ## Syntax -/

/-- **An expression for a value.** -/
inductive Scalar where
  | null
  | int (n : Int)
  | text (s : String)
  | column (name : String)
  | call (function : String) (arguments : List Scalar)

instance : Inhabited Scalar := ⟨.null⟩

/-- **An expression for a truth value.** -/
inductive Formula where
  | constant (b : Bool)
  | relation (op : Relation) (a b : Scalar)
  | isNull (a : Scalar)
  | isIn (a : Scalar) (list : List Scalar)
  | not (f : Formula)
  | and (f g : Formula)
  | or (f g : Formula)

/-! ## Reading -/

mutual

/-- **A value**: a number, a literal, null, a column, or a function with its
arguments between parentheses. -/
def scalar? (ts : List Token) : Option (Scalar × List Token) :=
  match ts with
  | number n :: rest => some (.int n, rest)
  | minus :: number n :: rest => some (.int (-n), rest)
  | text s :: rest => some (.text s, rest)
  | keyword .null :: rest => some (.null, rest)
  | word w :: opening :: rest => do
    let (list, rest) ← scalars? rest
    pure (.call w list, rest)
  | word w :: rest => some (.column w, rest)
  | _ => none
termination_by (ts.length, 0)

/-- Values with commas between them, and the closing parenthesis. -/
def scalars? (ts : List Token) : Option (List Scalar × List Token) := do
  let (a, rest) ← scalar? ts
  match rest with
  | closing :: rest => pure ([a], rest)
  | comma :: rest =>
    if rest.length < ts.length then do
      let (list, rest) ← scalars? rest
      pure (a :: list, rest)
    else none
  | _ => none
termination_by (ts.length, 1)

end

/-- What is asked of a value. A number of which nothing is asked is true unless it
is zero. -/
def asked? (a : Scalar) (ts : List Token) : Option (Formula × List Token) :=
  match ts with
  | relation op :: rest => do
    let (b, rest) ← scalar? rest
    pure (.relation op a b, rest)
  | keyword .is :: keyword .null :: rest => some (.isNull a, rest)
  | keyword .is :: keyword .not :: keyword .null :: rest => some (.not (.isNull a), rest)
  | keyword .isIn :: opening :: rest => do
    let (list, rest) ← scalars? rest
    pure (.isIn a list, rest)
  | rest =>
    match a with
    | .int n => some (.constant (n != 0), rest)
    | _ => none

mutual

/-- **Alternatives** with `OR` between them. -/
def disjunction? (ts : List Token) : Option (Formula × List Token) := do
  let (f, rest) ← conjunction? ts
  match rest with
  | keyword .or :: rest =>
    if rest.length < ts.length then do
      let (g, rest) ← disjunction? rest
      pure (.or f g, rest)
    else none
  | rest => pure (f, rest)
termination_by (ts.length, 3)

/-- **Requirements** with `AND` between them. -/
def conjunction? (ts : List Token) : Option (Formula × List Token) := do
  let (f, rest) ← negation? ts
  match rest with
  | keyword .and :: rest =>
    if rest.length < ts.length then do
      let (g, rest) ← conjunction? rest
      pure (.and f g, rest)
    else none
  | rest => pure (f, rest)
termination_by (ts.length, 2)

/-- **A test**, with any number of `NOT` before it. -/
def negation? (ts : List Token) : Option (Formula × List Token) :=
  match ts with
  | keyword .not :: rest => do
    let (f, rest) ← negation? rest
    pure (.not f, rest)
  | ts => test? ts
termination_by (ts.length, 1)

/-- An expression between parentheses, or a value and what is asked of it. -/
def test? (ts : List Token) : Option (Formula × List Token) :=
  match ts with
  | opening :: rest => do
    let (f, rest) ← disjunction? rest
    match rest with
    | closing :: rest => pure (f, rest)
    | _ => none
  | ts => do
    let (a, rest) ← scalar? ts
    asked? a rest
termination_by (ts.length, 0)

end

/-- **The expression that a text is**, if the whole text is one. -/
def read? (s : String) : Option Formula := do
  let ts ← tokens? s.toList
  let (f, rest) ← disjunction? ts
  if rest.isEmpty then pure f else none

example : read? "0 OR NOT id = 1 AND blog_title = '\\'s'"
    = some (.or (.constant false) (.and (.not (.relation .eq (.column "id") (.int 1)))
        (.relation .eq (.column "blog_title") (.text "'s")))) := by
  cbv

/-! ## Truth values -/

/-- **True, false, or unknown.** -/
inductive Truth where
  | yes
  | no
  | unknown
deriving DecidableEq, Repr

namespace Truth

/-- A truth value that is known. -/
def ofBool (b : Bool) : Truth :=
  if b then yes else no

/-- The opposite; of the unknown it is unknown. -/
protected def not : Truth → Truth
  | yes => no
  | no => yes
  | unknown => unknown

/-- Both; false decides. -/
protected def and : Truth → Truth → Truth
  | no, _ => no
  | _, no => no
  | yes, yes => yes
  | _, _ => unknown

/-- One of the two; true decides. -/
protected def or : Truth → Truth → Truth
  | yes, _ => yes
  | _, yes => yes
  | no, no => no
  | _, _ => unknown

@[simp] theorem not_ofBool (b : Bool) : (ofBool b).not = ofBool (!b) := by
  cases b <;> rfl

@[simp] theorem and_ofBool (a b : Bool) : (ofBool a).and (ofBool b) = ofBool (a && b) := by
  cases a <;> cases b <;> rfl

@[simp] theorem or_ofBool (a b : Bool) : (ofBool a).or (ofBool b) = ofBool (a || b) := by
  cases a <;> cases b <;> rfl

/-- False decides, also over the unknown. -/
@[simp] theorem no_and (t : Truth) : (ofBool false).and t = ofBool false := by
  cases t <;> rfl

/-- True decides, also over the unknown. -/
@[simp] theorem yes_or (t : Truth) : (ofBool true).or t = ofBool true := by
  cases t <;> rfl

@[simp] theorem yes_and (t : Truth) : (ofBool true).and t = t := by
  cases t <;> rfl

@[simp] theorem no_or (t : Truth) : (ofBool false).or t = t := by
  cases t <;> rfl

end Truth

/-! ## Values -/

/-- The functions of a server: what a name makes of values without null. -/
abbrev Functions : Type := String → List FieldValue → Option FieldValue

mutual

/-- **The value of an expression** in a row. A function of null is null. -/
def Scalar.eval (functions : Functions) (row : String → Option FieldValue) :
    Scalar → Option FieldValue
  | .null => some .null
  | .int n => some (.int n)
  | .text s => some (.text s)
  | .column name => row name
  | .call function list => do
    let values ← Scalar.evalAll functions row list
    if values.any (·.isNull) then pure .null else functions function values

/-- The values of several expressions. -/
def Scalar.evalAll (functions : Functions) (row : String → Option FieldValue) :
    List Scalar → Option (List FieldValue)
  | [] => some []
  | a :: list => do
    let v ← Scalar.eval functions row a
    let values ← Scalar.evalAll functions row list
    pure (v :: values)

end

/-- The orderings of the two sides for which a relation holds. -/
def Relation.accepts : Relation → Ordering → Bool
  | eq, o => o == .eq
  | ne, o => o != .eq
  | lt, o => o == .lt
  | le, o => o != .gt
  | gt, o => o == .gt
  | ge, o => o != .lt

/-- **A relation between values**: unknown if one of them is null, without a value
if they are of different kinds. -/
def Relation.between (op : Relation) (a b : FieldValue) : Option Truth :=
  if a.isNull || b.isNull then some .unknown
  else (a.compare? b).map fun o => .ofBool (op.accepts o)

/-- Whether a value is among others: it is if it equals one of them, and unless
it does, a null anywhere leaves it unknown. -/
def memberOf (a : FieldValue) : List FieldValue → Option Truth
  | [] => some .no
  | v :: values => do
    let t ← Relation.eq.between a v
    let u ← memberOf a values
    pure (t.or u)

/-- **The truth value of an expression** in a row. -/
def Formula.eval (functions : Functions) (row : String → Option FieldValue) :
    Formula → Option Truth
  | constant b => some (.ofBool b)
  | relation op a b => do
    let v ← a.eval functions row
    let w ← b.eval functions row
    op.between v w
  | isNull a => do
    let v ← a.eval functions row
    pure (.ofBool v.isNull)
  | isIn a list => do
    let v ← a.eval functions row
    let values ← Scalar.evalAll functions row list
    memberOf v values
  | not f => do
    let t ← f.eval functions row
    pure t.not
  | and f g => do
    let t ← f.eval functions row
    let u ← g.eval functions row
    pure (t.and u)
  | or f g => do
    let t ← f.eval functions row
    let u ← g.eval functions row
    pure (t.or u)

/-- **A record as a row**: each field is a column. -/
def rowOf (r : ViewRecord) (name : String) : Option FieldValue :=
  (Field.all.find? (·.column == name)).map r

theorem rowOf_column (r : ViewRecord) (f : Field) : rowOf r f.column = some (r f) := by
  have hfind : Field.all.find? (·.column == f.column) = some f := by cases f <;> rfl
  rw [rowOf, hfind, Option.map_some]

/-- **What a server promises of its functions.** Text of an instant is read as
that instant, to the second or to the nanosecond, and a text in small letters is
found in a value, whatever the case of the letters there, exactly where the test
for it finds one. -/
structure Documented (functions : Functions) : Prop where
  toDateTime : ∀ t : Instant, t.Proper → t.nano = 0 →
    functions "toDateTime" [.text t.plainText, .text "UTC"] = some (.instant t)
  toDateTime64 : ∀ t : Instant, t.Proper →
    functions "toDateTime64" [.text t.fullText, .int 9, .text "UTC"] = some (.instant t)
  position : ∀ (v : FieldValue) (s : String), v ≠ .null → ∃ shown at₀,
    functions "toString" [v] = some (.text shown) ∧
    functions "positionCaseInsensitiveUTF8" [.text shown, .text (Text.lowercase s)]
      = some (.int at₀) ∧
    (0 < at₀ ↔ (Test.contains (Text.lowercase s)).holds v = true)

end Readership.Sql

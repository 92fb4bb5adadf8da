import Readership.Calendar.Reader
import Readership.Fault
import Readership.View.Field
import Readership.View.Value

/-!
# Literals of a field

A literal of a filter document is a JSON value; what it means depends on the
field it is compared with. Null is a literal of every field. An integer field
takes an integer or a text that spells one, a text field takes any scalar as
its text, a timestamp field takes the text of an instant. The same reading
serves the keys of the rows that a server returns.
-/

namespace Readership.Field

/-- **The field that a path names**, or the fault that it names none. -/
def parse (path : String) : Except Fault Field :=
  match ofPath? path with
  | some f => .ok f
  | none => .error (.field path)

/-- The integer of 64 bits that a text spells between white space. -/
def integerOfText? (s : String) : Option Int := do
  let n ← Numeral.int? (Text.trim s.toList)
  if Numeral.fitsSigned n then pure n else none

/-- A literal of an integer field. -/
def integerLiteral? : Json → Option Int
  | .num n => n.signed?
  | .str s => integerOfText? s
  | _ => none

/-- A scalar as text. -/
def scalarText? : Json → Option String
  | .str s => some s
  | .num n => some n.text
  | .bool b => some (if b then "true" else "false")
  | _ => none

/-- A literal of a timestamp field. -/
def instantLiteral? : Json → Option Instant
  | .str s => Calendar.instant? s
  | _ => none

/-- **The value that a literal has for a field**, or why it has none. The
fault names the field by its full path. -/
def coerce (f : Field) (literal : Json) : Except Fault FieldValue :=
  match literal, f.kind with
  | .null, _ => .ok .null
  | _, .integer =>
    match integerLiteral? literal with
    | some n => .ok (.int n)
    | none => .error (.mismatch f.path (.notAnInteger literal))
  | _, .text =>
    match scalarText? literal with
    | some s => .ok (.text s)
    | none => .error (.mismatch f.path (.notAText literal))
  | _, .timestamp =>
    match instantLiteral? literal with
    | some t => .ok (.instant t)
    | none => .error (.mismatch f.path (.notAnInstant literal))

@[simp] theorem coerce_null (f : Field) : f.coerce .null = .ok .null := by
  cases f <;> rfl

end Readership.Field

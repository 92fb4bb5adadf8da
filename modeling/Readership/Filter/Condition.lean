import Readership.Filter.Operator
import Readership.Json.Printer
import Readership.Json.Record

/-!
# Conditions

A condition is a leaf of a filter as its author wrote it: a field path, an
operator and a literal, none of them checked yet.
-/

namespace Readership

/-- **A comparison, unchecked.** -/
structure Condition where
  field : String
  operator : Operator
  value : Json

namespace Condition

/-- The condition that a field has a value. -/
def isPresent (field : String) : Condition :=
  ⟨field, .ne, .null⟩

/-- A condition as text: path, symbol, literal. -/
def text (c : Condition) : String :=
  c.field ++ " " ++ c.operator.symbol ++ " " ++ c.value.compact

/-- A condition as a record. -/
def toJson (c : Condition) : Json :=
  .object [("field", .str c.field), ("operator", .str c.operator.key), ("value", c.value)]

/-- **A condition from its record.** -/
def ofWritten? (w : Json.Written) : Option Condition := do
  let fields ← w.record? ["field", "operator", "value"]
  match fields with
  | [some field, some operator, some value] =>
    let field ← field.str?
    let name ← operator.caseName?
    let operator ← Operator.ofKey? name
    let value ← value.value? Json.maxDepth
    pure ⟨field, operator, value⟩
  | _ => none

end Condition

end Readership

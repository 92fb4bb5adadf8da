import Readership.Json.Written

/-!
# Records in JSON texts

A record is written as an object or as the array of its fields in order.
Unknown keys of an object are passed over, whatever stands there; a known key
may stand only once. An array may end early but not run on.
-/

namespace Readership.Json.Written

/-- The values of one key, in the order of the text. -/
def valuesOf (key : String) (members : List (Option String × Written)) : List Written :=
  members.filterMap fun m => if m.1 = some key then some m.2 else none

/-- The value of a field that is not repeated. -/
def fieldOf? (members : List (Option String × Written)) (key : String) :
    Option (Option Written) :=
  match valuesOf key members with
  | [] => some none
  | [value] => some (some value)
  | _ :: _ :: _ => none

/-- **The fields of a record**, in the order of their names; `none` stands for
a field that is left out. -/
def record? (names : List String) : Written → Option (List (Option Written))
  | .obj members =>
    if members.all (·.1.isSome) then names.mapM (fieldOf? members) else none
  | .arr items =>
    if items.length ≤ names.length then
      some (items.map some ++ List.replicate (names.length - items.length) none)
    else none
  | _ => none

/-- A text. -/
def str? : Written → Option String
  | .str s => s
  | _ => none

/-- True or false. -/
def bool? : Written → Option Bool
  | .bool b => some b
  | _ => none

/-- An integer of a signed 64-bit word. -/
def signed? : Written → Option Int
  | .num n => n.bind Number.signed?
  | _ => none

/-- A natural number of an unsigned 64-bit word. -/
def unsigned? : Written → Option Nat
  | .num n => n.bind Number.unsigned?
  | _ => none

/-- The items of an array, each read in the same way. -/
def list? {α : Type} (item? : Written → Option α) : Written → Option (List α)
  | .arr items => items.mapM item?
  | _ => none

/-- Null, or a value that is there. -/
def optional? {α : Type} (item? : Written → Option α) : Written → Option (Option α)
  | .null => some none
  | value => (item? value).map some

/-- The name of a case without contents: a string, or an object whose only key
it is and whose value is null. -/
def caseName? : Written → Option String
  | .str s => s
  | .obj [(key, .null)] => key
  | _ => none

end Readership.Json.Written

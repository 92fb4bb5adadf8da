import Readership.Number.Numeral

/-!
# JSON values

Filter documents, datasets and server replies are JSON. A number is an
integer or a double and the difference matters: `1` can be the id of a blog
and `1.0` cannot. An object keeps its members as a list; reading sorts them by
key and keeps one member a key (`Json.Object.insert`).
-/

namespace Readership

/-- **A JSON number.** Integers are exact; whatever has a decimal point, an
exponent, or more digits than a word of 64 bits holds is a double. -/
inductive Json.Number where
  | int (n : Int)
  | float (x : Float)

/-- **A JSON value.** -/
inductive Json where
  | null
  | bool (b : Bool)
  | num (n : Json.Number)
  | str (s : String)
  | arr (items : List Json)
  | obj (members : List (String × Json))

instance : Inhabited Json := ⟨.null⟩

namespace Json

/-- The integer of a signed 64-bit word that a number is, if it is one. -/
def Number.signed? : Number → Option Int
  | .int n => if Numeral.fitsSigned n then some n else none
  | .float _ => none

/-- The natural number of an unsigned 64-bit word that a number is. -/
def Number.unsigned? : Number → Option Nat
  | .int n => if Numeral.fitsUnsigned n then some n.toNat else none
  | .float _ => none

/-- The double nearest to an integer of 64 bits. -/
def floatOfInt (n : Int) : Float :=
  if n < 0 then -(n.natAbs.toUInt64.toFloat) else n.natAbs.toUInt64.toFloat

/-- A number as a double. -/
def Number.toFloat : Number → Float
  | .int n => floatOfInt n
  | .float x => x

/-- A list of members with one more, in the order of keys; the new member
takes the place of an old one of the same key. -/
def Object.insert (key : String) (value : Json) : List (String × Json) → List (String × Json)
  | [] => [(key, value)]
  | (k, v) :: rest =>
    if key < k then (key, value) :: (k, v) :: rest
    else if key = k then (key, value) :: rest
    else (k, v) :: insert key value rest

/-- **An object from members in any order**; of two with one key the later
counts. -/
def object (members : List (String × Json)) : Json :=
  .obj (members.foldl (fun sorted m => Object.insert m.1 m.2 sorted) [])

/-- The value of a key of an object; `none` for other values. -/
def get? (key : String) : Json → Option Json
  | .obj members => members.lookup key
  | _ => none

/-- Null. -/
def isNull : Json → Bool
  | .null => true
  | _ => false

/-- The text of a string. -/
def str? : Json → Option String
  | .str s => some s
  | _ => none

/-- The items of an array. -/
def arr? : Json → Option (List Json)
  | .arr items => some items
  | _ => none

/-- The members of an object. -/
def obj? : Json → Option (List (String × Json))
  | .obj members => some members
  | _ => none

/-- An integer as a JSON value. -/
def ofInt (n : Int) : Json := .num (.int n)

/-- A natural number as a JSON value. -/
def ofNat (n : Nat) : Json := .num (.int n)

/-- A double as a JSON value. -/
def ofFloat (x : Float) : Json := .num (.float x)

/-- A text, or null where there is none. -/
def ofText? : Option String → Json
  | some s => .str s
  | none => .null

@[simp] theorem get?_obj (key : String) (members : List (String × Json)) :
    (Json.obj members).get? key = members.lookup key := rfl

end Json

end Readership

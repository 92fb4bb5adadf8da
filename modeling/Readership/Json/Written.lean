import Readership.Json.Basic

/-!
# JSON as it is written

A JSON text says a little more than the value it denotes. It may repeat a key;
it may hold a number beyond every double or a string that is not Unicode, and
then it denotes no value, although its grammar is in order. Whoever reads a
record out of a text cares: a repeated known field is a fault, and a fault in
a field that nobody asked for is none.
-/

namespace Readership.Json

/-- **A JSON text, parsed.** Members stand in the order of the text, and a leaf
that denotes nothing is `none`. -/
inductive Written where
  | null
  | bool (b : Bool)
  | num (n : Option Number)
  | str (s : Option String)
  | arr (items : List Written)
  | obj (members : List (Option String × Written))

instance : Inhabited Written := ⟨.null⟩

/-- The greatest number of arrays and objects that may be open at once. -/
def maxDepth : Nat := 127

namespace Written

mutual

/-- **The value that a text denotes**, if all its leaves denote something and
arrays and objects are nested at most `depth` deep. -/
def value? (depth : Nat) : Written → Option Json
  | .null => some .null
  | .bool b => some (.bool b)
  | .num n => n.map .num
  | .str s => s.map .str
  | .arr items => if depth = 0 then none else (values? (depth - 1) items).map .arr
  | .obj members => if depth = 0 then none else (fields? (depth - 1) members).map object

/-- The values of the items of an array. -/
def values? (depth : Nat) : List Written → Option (List Json)
  | [] => some []
  | item :: rest => do
    let v ← value? depth item
    let vs ← values? depth rest
    pure (v :: vs)

/-- The members of an object, with their values. -/
def fields? (depth : Nat) : List (Option String × Written) → Option (List (String × Json))
  | [] => some []
  | (key, item) :: rest => do
    let k ← key
    let v ← value? depth item
    let vs ← fields? depth rest
    pure ((k, v) :: vs)

end

mutual

/-- The greatest number of arrays and objects around a leaf. -/
def depth : Written → Nat
  | .arr items => itemsDepth items + 1
  | .obj members => membersDepth members + 1
  | _ => 0

/-- The depth of the deepest item. -/
def itemsDepth : List Written → Nat
  | [] => 0
  | item :: rest => max (depth item) (itemsDepth rest)

/-- The depth of the deepest member. -/
def membersDepth : List (Option String × Written) → Nat
  | [] => 0
  | (_, item) :: rest => max (depth item) (membersDepth rest)

end

mutual

/-- A value, written down. -/
def ofJson : Json → Written
  | .null => .null
  | .bool b => .bool b
  | .num n => .num (some n)
  | .str s => .str (some s)
  | .arr items => .arr (ofItems items)
  | .obj members => .obj (ofMembers members)

/-- Values, written down. -/
def ofItems : List Json → List Written
  | [] => []
  | item :: rest => ofJson item :: ofItems rest

/-- Members, written down. -/
def ofMembers : List (String × Json) → List (Option String × Written)
  | [] => []
  | (key, item) :: rest => (some key, ofJson item) :: ofMembers rest

end

end Written

end Readership.Json

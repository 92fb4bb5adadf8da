import Readership.Toml.Value

/-!
# Tables under construction

A document names its tables in any order, and most of the rules about what may
follow what are about where a table came from. A table is there because its
header stands in the document, or because the path of a header or of another
key leads through it. A header may come once, and after the headers of the
tables inside; a dotted key may lead through tables of dotted keys only, and
may add to no other table.

An array of tables holds the tables that were opened under its header so far,
and whoever leads through it means the last one.
-/

namespace Readership.Toml

/-- **Where a table came from.** -/
inductive Origin where
  /-- Its header. -/
  | header
  /-- The path of a header that leads through it. -/
  | passage
  /-- A dotted key that leads through it. -/
  | dotted
deriving DecidableEq, Repr

/-- **What stands under a key** while a document is read. -/
inductive Node where
  | value (v : Value)
  | table (origin : Origin) (members : List (String × Node))
  /-- The tables of an array, last one first. -/
  | tables (opened : List (List (String × Node)))

instance : Inhabited Node := ⟨.table .passage []⟩

/-- The members of a table, in the order in which their keys were met. -/
abbrev Members : Type := List (String × Node)

namespace Members

/-- The members with a node in its place under a key, or at the end. -/
def put (key : String) (node : Node) : Members → Members
  | [] => [(key, node)]
  | (k, old) :: rest => if k = key then (k, node) :: rest else (k, old) :: put key node rest

/-- Whether a dotted key may lead through a table. -/
def passable (dotted : Bool) (origin : Origin) : Bool :=
  !dotted || origin != .header

/-- **A change deep inside a table**: the change is made to the table at the end
of the path, and tables that are not there yet are made on the way. -/
def change (dotted : Bool) (f : Origin → Members → Option Members) :
    List String → Origin → Members → Option Members
  | [], origin, members => f origin members
  | key :: path, _, members =>
    match members.lookup key with
    | none => do
      let origin := if dotted then Origin.dotted else .passage
      let inside ← change dotted f path origin []
      pure (members.put key (.table origin inside))
    | some (.value _) => none
    | some (.table origin inside) =>
      if passable dotted origin then do
        let inside ← change dotted f path origin inside
        pure (members.put key (.table origin inside))
      else none
    | some (.tables (last :: others)) => do
      let last ← change dotted f path .header last
      pure (members.put key (.tables (last :: others)))
    | some (.tables []) => none

/-- A value under a key that is still free, in a table that it may be added to. -/
def addValue (dotted : Bool) (key : String) (value : Value) (origin : Origin)
    (members : Members) : Option Members :=
  if dotted && origin != .dotted then none
  else if (members.lookup key).isSome then none
  else some (members.put key (.value value))

/-- **A value under a dotted key.** -/
def assign (path : List String) (key : String) (value : Value) (origin : Origin)
    (members : Members) : Option Members :=
  change (!path.isEmpty) (addValue (!path.isEmpty) key value) path origin members

/-- A table whose header comes now. -/
def openTable (key : String) (_ : Origin) (members : Members) : Option Members :=
  match members.lookup key with
  | none => some (members.put key (.table .header []))
  | some (.table .passage inside) => some (members.put key (.table .header inside))
  | some _ => none

/-- One more table of an array. -/
def openElement (key : String) (_ : Origin) (members : Members) : Option Members :=
  match members.lookup key with
  | none => some (members.put key (.tables [[]]))
  | some (.tables opened) => some (members.put key (.tables ([] :: opened)))
  | some _ => none

end Members

mutual

/-- A finished node. -/
def Node.toValue : Node → Value
  | .value v => v
  | .table _ members => .table (memberValues members)
  | .tables opened => .array (tableValues opened).reverse

/-- The finished members of a table. -/
def memberValues : List (String × Node) → List (String × Value)
  | [] => []
  | (key, node) :: rest => (key, node.toValue) :: memberValues rest

/-- The finished tables of an array. -/
def tableValues : List (List (String × Node)) → List Value
  | [] => []
  | members :: rest => .table (memberValues members) :: tableValues rest

end

end Readership.Toml

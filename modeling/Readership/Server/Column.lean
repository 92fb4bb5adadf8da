import Readership.Json.Record
import Readership.Text.Blank
import Readership.Text.Search

/-!
# Columns of a server's answer

A server names the type of each column. What matters of it is the broad kind
of value and whether the value may be missing; wrappers around the type proper
are taken off one after the other, and one of them says that null is allowed.
-/

namespace Readership

/-- **The broad kind of a column.** -/
inductive ColumnKind where
  | integer
  | float
  | text
  | date
  | datetime
  | boolean
  | other
deriving DecidableEq, Repr

namespace ColumnKind

/-- Every kind. -/
def all : List ColumnKind := [integer, float, text, date, datetime, boolean, other]

/-- The word for a kind. -/
def name : ColumnKind → String
  | integer => "integer"
  | float => "float"
  | text => "text"
  | date => "date"
  | datetime => "datetime"
  | boolean => "boolean"
  | other => "other"

/-- The kind with a name. -/
def ofName? (s : String) : Option ColumnKind :=
  all.find? (·.name == s)

/-- Types that are known by their whole name. -/
def exactTypes : List (String × ColumnKind) :=
  [("Bool", boolean), ("Float32", float), ("Float64", float), ("Date", date),
    ("Date32", date), ("String", text), ("UUID", text)]

/-- Types that are known by how their name begins, since a width or parameters
may follow. -/
def typeFamilies : List (String × ColumnKind) :=
  [("UInt", integer), ("Int", integer), ("FixedString", text), ("Enum", text),
    ("DateTime", datetime), ("Decimal", float)]

/-- **The kind of a type** without wrappers. -/
def ofType (type : List Char) : ColumnKind :=
  match exactTypes.find? (·.1.toList == type) with
  | some (_, kind) => kind
  | none =>
    match typeFamilies.find? (·.1.toList.isPrefixOf type) with
    | some (_, kind) => kind
    | none => other

end ColumnKind

/-- **A column** of an answer. -/
structure Column where
  name : String
  kind : ColumnKind
  nullable : Bool
deriving DecidableEq, Repr

namespace Column

/-- The inside of a type if it is wrapped: `wrapper(inside)`. -/
def unwrap? (wrapper : String) (type : List Char) : Option (List Char) :=
  match Text.after? (wrapper.toList ++ ['(']) type with
  | some inside => if inside.getLast? = some ')' then some inside.dropLast else none
  | none => none

theorem length_lt_of_unwrap? {wrapper : String} {type inside : List Char}
    (h : unwrap? wrapper type = some inside) : inside.length < type.length := by
  unfold unwrap? at h
  split at h
  · rename_i rest hr
    split at h
    · simp only [Option.some.injEq] at h
      subst h
      unfold Text.after? at hr
      split at hr
      · rename_i hp
        simp only [Option.some.injEq] at hr
        subst hr
        have hlen := (List.isPrefixOf_iff_prefix.1 hp).length_le
        simp only [List.length_append, List.length_cons, List.length_nil] at hlen ⊢
        simp only [List.length_dropLast, List.length_drop]
        omega
      · cases hr
    · cases h
  · cases h

/-- **A type without its wrappers**, and whether one of them allowed null. -/
def unwrapAll (nullable : Bool) (type : List Char) : List Char × Bool :=
  match _h : unwrap? "Nullable" type with
  | some inside => unwrapAll true inside
  | none =>
    match _h' : unwrap? "LowCardinality" type with
    | some inside => unwrapAll nullable inside
    | none => (type, nullable)
termination_by type.length
decreasing_by
  · exact length_lt_of_unwrap? _h
  · exact length_lt_of_unwrap? _h'

/-- **The column of a server's type.** -/
def ofType (name type : String) : Column :=
  let (base, nullable) := unwrapAll false (Text.trim type.toList)
  ⟨name, ColumnKind.ofType base, nullable⟩

/-- A column as a record. -/
def toJson (c : Column) : Json :=
  .object [("name", .str c.name), ("kind", .str c.kind.name), ("nullable", .bool c.nullable)]

/-- A column from its record. -/
def ofWritten? (w : Json.Written) : Option Column := do
  match ← w.record? ["name", "kind", "nullable"] with
  | [some name, some kind, some nullable] =>
    let kindName ← kind.caseName?
    pure ⟨← name.str?, ← ColumnKind.ofName? kindName, ← nullable.bool?⟩
  | _ => none

end Column

end Readership

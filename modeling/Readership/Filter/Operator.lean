import Readership.Text.Case

/-!
# Comparison operators

A leaf of a filter compares a field with a literal by one of eight operators.
An operator has a key, under which the literal stands in a document, and a
symbol, by which a predicate shows it. Both, and a few variants, name it.
-/

namespace Readership

/-- **An operator of a leaf.** -/
inductive Operator where
  | eq
  | ne
  | gt
  | gte
  | lt
  | lte
  | isIn
  | contains
deriving DecidableEq, Repr

namespace Operator

/-- The operators in the order in which a leaf is searched for one. -/
def all : List Operator := [eq, ne, gt, gte, lt, lte, isIn, contains]

/-- The key of an operator in a document. -/
def key : Operator → String
  | eq => "eq"
  | ne => "ne"
  | gt => "gt"
  | gte => "gte"
  | lt => "lt"
  | lte => "lte"
  | isIn => "in"
  | contains => "contains"

/-- The symbol of an operator between a field and a literal. -/
def symbol : Operator → String
  | eq => "="
  | ne => "!="
  | gt => ">"
  | gte => ">="
  | lt => "<"
  | lte => "<="
  | isIn => "in"
  | contains => "contains"

/-- Other ways to write an operator. -/
def variants : Operator → List String
  | eq => ["=="]
  | ne => ["<>"]
  | _ => []

/-- Whether a text in small letters writes the operator. -/
def answersTo (op : Operator) (s : String) : Bool :=
  s == op.key || s == op.symbol || op.variants.contains s

/-- **The operator that a text names**, in small or capital letters. -/
def ofText? (s : String) : Option Operator :=
  all.find? (·.answersTo (Text.lowercase s))

/-- The operator whose key a text is, to the letter. -/
def ofKey? (s : String) : Option Operator :=
  all.find? (·.key == s)

theorem mem_all (op : Operator) : op ∈ all := by
  cases op <;> decide

end Operator

end Readership

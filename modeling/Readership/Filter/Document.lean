import Readership.Fault
import Readership.Filter.Predicate
import Readership.Json.Reader

/-!
# Filter documents

A filter document is a JSON object whose keys are joined by *and*: lists of
documents under `and`, `or` and `not` (none of them may hold), and a leaf made
of `field` and an operator key with its literal. Compilation is lenient: what
does not fit this grammar restricts nothing and is reported as ignored. The
only reason to refuse a document is that it is nested too deep.

Compilation counts the levels that are left, so it needs no other bound.
-/

namespace Readership

/-- The greatest number of logical levels below the root of a document. -/
def maxFilterDepth : Nat := 32

/-- **Structure that compilation ignored**, node by node. -/
inductive Ignored where
  /-- A node that is no object. -/
  | node (value : Json)
  /-- A logical key whose value is no list. -/
  | logicalKey (key : String) (value : Json)
  /-- A `field` that is no text. -/
  | fieldName
  /-- A `field` without an operator beside it. -/
  | leaf (field : String)
  /-- Any other key. -/
  | key (key : String)

namespace Ignored

/-- The message about an ignored piece. -/
def message : Ignored → String
  | node _ => "ignoring non-object filter node"
  | logicalKey _ _ => "ignoring logical filter key without a list"
  | fieldName => "ignoring filter leaf whose field is not a string"
  | leaf _ => "ignoring filter leaf without an operator"
  | key _ => "ignoring unknown filter key"

/-- What the message is about, by name. -/
def details : Ignored → List (String × String)
  | node value => [("node", value.compact)]
  | logicalKey name value => [("key", name), ("value", value.compact)]
  | fieldName => []
  | leaf field => [("field", field)]
  | .key name => [("key", name)]

end Ignored

/-- **What a document compiles to**, and what of it was ignored, in the order
in which it was met. -/
structure Compiled where
  predicate : Predicate
  ignored : List Ignored

/-- **The operator that a text names**, or the fault that it names none. -/
def Operator.parse (s : String) : Except Fault Operator :=
  match ofText? s with
  | some op => .ok op
  | none => .error (.filter (.unknownOperator s))

namespace Filter

/-- The members of an object. -/
abbrev Members : Type := List (String × Json)

/-- The children under a logical key, if a list stands there. -/
def children? (members : Members) (key : String) : Option (List Json) :=
  match members.lookup key with
  | some (.arr nodes) => some nodes
  | _ => none

/-- What stands under a logical key in place of a list. -/
def notAList (members : Members) (key : String) : List Ignored :=
  match members.lookup key with
  | none | some (.arr _) => []
  | some value => [.logicalKey key value]

/-- The first operator that has a key among the members, and its literal. -/
def operatorOf? (members : Members) : Option (Operator × Json) :=
  Operator.all.findSome? fun op => (members.lookup op.key).map fun value => (op, value)

/-- **The leaf of a node**: a `field` that is a text, and an operator. -/
def leaf? (members : Members) : Option Condition :=
  match members.lookup "field", operatorOf? members with
  | some (.str path), some (op, value) => some ⟨path, op, value⟩
  | _, _ => none

/-- What keeps a node with a `field` from having a leaf. -/
def notALeaf (members : Members) : List Ignored :=
  match members.lookup "field" with
  | none => []
  | some (.str path) => if (operatorOf? members).isSome then [] else [.leaf path]
  | some _ => [.fieldName]

/-- Whether a key of a node has a meaning there. -/
def isKnownKey (members : Members) (key : String) : Bool :=
  ["and", "or", "not", "field"].contains key
    || ((members.lookup "field").isSome && Operator.all.any (·.key == key))

/-- The keys of a node that mean nothing there. -/
def unknownKeys (members : Members) : List Ignored :=
  members.filterMap fun m => if isKnownKey members m.1 then none else some (.key m.1)

/-- **The children of a node**, compiled, list by list. -/
structure Parts where
  allOf : Option (List Compiled)
  anyOf : Option (List Compiled)
  noneOf : Option (List Compiled)

namespace Parts

/-- The predicates of compiled nodes. -/
def predicates (nodes : List Compiled) : List Predicate :=
  nodes.map (·.predicate)

/-- What was ignored in a list of nodes. -/
def ignoredIn (nodes : Option (List Compiled)) : List Ignored :=
  (nodes.getD []).flatMap (·.ignored)

/-- That none of some predicates holds; of no predicates this says nothing. -/
def noneHolds (nodes : List Compiled) : Option Predicate :=
  if nodes.isEmpty then none else some (Predicate.disj (predicates nodes)).negate

/-- The predicate of a node: what its lists say, and its leaf. -/
def predicate (parts : Parts) (leaf : Option Condition) : Predicate :=
  Predicate.conj
    ((parts.allOf.map fun nodes => Predicate.conj (predicates nodes)).toList
      ++ (parts.anyOf.map fun nodes => Predicate.disj (predicates nodes)).toList
      ++ (parts.noneOf.bind noneHolds).toList
      ++ (leaf.map Predicate.leaf).toList)

/-- What was ignored at a node and below it, in the order in which it was met. -/
def ignored (parts : Parts) (members : Members) : List Ignored :=
  notAList members "and" ++ ignoredIn parts.allOf
    ++ notAList members "or" ++ ignoredIn parts.anyOf
    ++ notAList members "not" ++ ignoredIn parts.noneOf
    ++ notALeaf members ++ unknownKeys members

end Parts

/-- A list of children, each compiled in the same way. -/
def compileList (compileChild : Json → Except Fault Compiled) :
    Option (List Json) → Except Fault (Option (List Compiled))
  | none => .ok none
  | some nodes => (nodes.mapM compileChild).map some

/-- **One node**, with `levels` levels left for it and its children. -/
def compileNode : Nat → Json → Except Fault Compiled
  | 0, _ => .error (.filter (.tooDeep maxFilterDepth))
  | levels + 1, .obj members => do
    let allOf ← compileList (compileNode levels) (children? members "and")
    let anyOf ← compileList (compileNode levels) (children? members "or")
    let noneOf ← compileList (compileNode levels) (children? members "not")
    let parts : Parts := ⟨allOf, anyOf, noneOf⟩
    pure ⟨parts.predicate (leaf? members), parts.ignored members⟩
  | _ + 1, value => pure ⟨.all, [.node value]⟩

/-- **Compiling a document.** No document and the document null restrict
nothing. -/
def compile (document : Option Json) : Except Fault Compiled :=
  match document with
  | none | some .null => pure ⟨.all, []⟩
  | some root => compileNode (maxFilterDepth + 1) root

/-- Compiling the text of a document; a blank text restricts nothing. -/
def compileText (s : String) : Except Fault Compiled :=
  if Text.isBlankText s then pure ⟨.all, []⟩
  else match Json.read? s with
    | some document => compile (some document)
    | none => .error (.filter .notJson)

end Filter

end Readership

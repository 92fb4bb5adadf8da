import Readership.Json.Basic
import Readership.Number.FloatText
import Readership.Text.Search

/-!
# JSON as text

Two forms: the compact one, which stands in messages and displays, and the
indented one of reports, with two blanks a level.
-/

namespace Readership.Json

/-- A character between quotes. Quotes, backslashes and controls are escaped,
everything else stands for itself. -/
def escapeChar (c : Char) : List Char :=
  if c = '"' then ['\\', '"']
  else if c = '\\' then ['\\', '\\']
  else if c.toNat = 8 then ['\\', 'b']
  else if c.toNat = 12 then ['\\', 'f']
  else if c = '\n' then ['\\', 'n']
  else if c = '\r' then ['\\', 'r']
  else if c = '\t' then ['\\', 't']
  else if c.toNat < 32 then
    ['\\', 'u', '0', '0', Nat.digitChar (c.toNat / 16), Nat.digitChar (c.toNat % 16)]
  else [c]

/-- A string between quotes. -/
def quoted (s : String) : String :=
  String.ofList ('"' :: s.toList.flatMap escapeChar ++ ['"'])

/-- A number. A double that is no number has no JSON form of its own. -/
def Number.text : Number → String
  | .int n => Numeral.ofInt n
  | .float x =>
    if x.isNaN || x.isInf then "null" else Number.floatText Number.documentLayout x

mutual

/-- **The compact form**: no white space at all. -/
def compact : Json → String
  | .null => "null"
  | .bool b => if b then "true" else "false"
  | .num n => n.text
  | .str s => quoted s
  | .arr items => "[" ++ Text.joinWith "," (compactItems items) ++ "]"
  | .obj members => "\x7b" ++ Text.joinWith "," (compactMembers members) ++ "\x7d"

/-- The items of an array, each compact. -/
def compactItems : List Json → List String
  | [] => []
  | item :: rest => compact item :: compactItems rest

/-- The members of an object, each compact. -/
def compactMembers : List (String × Json) → List String
  | [] => []
  | (key, value) :: rest => (quoted key ++ ":" ++ compact value) :: compactMembers rest

end

/-- Pieces on lines of their own between brackets; nothing between the brackets
if there are none. -/
def block (opening closing : String) (level : Nat) (pieces : List String) : String :=
  if pieces.isEmpty then opening ++ closing
  else
    let margin := "\n" ++ String.ofList (List.replicate (2 * level) ' ')
    opening ++ margin ++ "  " ++ Text.joinWith ("," ++ margin ++ "  ") pieces ++ margin ++ closing

mutual

/-- **The indented form** of a value that stands at the given level. -/
def indentedAt (level : Nat) : Json → String
  | .arr items => block "[" "]" level (indentedItems (level + 1) items)
  | .obj members => block "\x7b" "\x7d" level (indentedMembers (level + 1) members)
  | .null => "null"
  | .bool b => if b then "true" else "false"
  | .num n => n.text
  | .str s => quoted s

/-- The items of an array, each indented. -/
def indentedItems (level : Nat) : List Json → List String
  | [] => []
  | item :: rest => indentedAt level item :: indentedItems level rest

/-- The members of an object, each indented. -/
def indentedMembers (level : Nat) : List (String × Json) → List String
  | [] => []
  | (key, value) :: rest =>
    (quoted key ++ ": " ++ indentedAt level value) :: indentedMembers level rest

end

/-- The indented form of a document. -/
def indented (value : Json) : String :=
  indentedAt 0 value

theorem compactItems_eq_map (items : List Json) : compactItems items = items.map compact := by
  induction items with
  | nil => rfl
  | cons item rest ih => simp [compactItems, ih]

end Readership.Json

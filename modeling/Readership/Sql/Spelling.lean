import Readership.Text.Search
import Readership.View.Value

/-!
# Spelling names and literals in SQL

Text of a caller enters a statement in two forms only: as a literal between
single quotes and as a quoted name between backticks. In both, a backslash is
written twice and the closing quote gets a backslash, so the quote that ends
the form is the first one that no backslash precedes.
-/

namespace Readership.Sql

/-- A character between quotes `mark`. -/
def escapeChar (mark c : Char) : List Char :=
  if c = '\\' then ['\\', '\\']
  else if c = mark then ['\\', mark]
  else [c]

/-- A text between quotes `mark`. -/
def escapeChars (mark : Char) (cs : List Char) : List Char :=
  cs.flatMap (escapeChar mark)

/-- **The inside of a string literal.** -/
def escapeText (s : String) : String :=
  String.ofList (escapeChars '\'' s.toList)

/-- **A string literal.** -/
def quoted (s : String) : String :=
  "'" ++ escapeText s ++ "'"

/-- The characters of a name that needs no quotes. -/
def isPlain (c : Char) : Bool :=
  c.isAlphanum || c = '_'

/-- **A name**, between backticks unless it is plain. -/
def nameChars (cs : List Char) : List Char :=
  if !cs.isEmpty && cs.all isPlain then cs
  else '`' :: escapeChars '`' cs ++ ['`']

/-- A name as text. -/
def name (s : String) : String :=
  String.ofList (nameChars s.toList)

/-- The names of a qualified name with the dots between them. -/
def dottedChars : List (List Char) → List Char
  | [] => []
  | [part] => nameChars part
  | part :: next :: rest => nameChars part ++ '.' :: dottedChars (next :: rest)

/-- **A table**, possibly with its database in front of a dot. -/
def table (s : String) : String :=
  String.ofList (dottedChars (Text.splitAt '.' s.toList))

/-- **A value as a literal.** An instant that is not the beginning of a plain
second – because of a fraction, or because it lies in a leap second – is
written to the nanosecond. -/
def literal : FieldValue → String
  | .null => "NULL"
  | .int n => Numeral.ofInt n
  | .text s => quoted s
  | .instant t =>
    if t.nano ≠ 0 then "toDateTime64('" ++ t.fullText ++ "', 9, 'UTC')"
    else "toDateTime('" ++ t.plainText ++ "', 'UTC')"

@[simp] theorem escapeChars_nil (mark : Char) : escapeChars mark [] = [] := rfl

@[simp] theorem escapeChars_cons (mark c : Char) (cs : List Char) :
    escapeChars mark (c :: cs) = escapeChar mark c ++ escapeChars mark cs := rfl

@[simp] theorem escapeChars_append (mark : Char) (a b : List Char) :
    escapeChars mark (a ++ b) = escapeChars mark a ++ escapeChars mark b :=
  List.flatMap_append

/-- A character that is neither backslash nor quote stands for itself. -/
theorem escapeChar_of_ne {mark c : Char} (h : c ≠ '\\') (hm : c ≠ mark) :
    escapeChar mark c = [c] := by
  simp [escapeChar, h, hm]

end Readership.Sql

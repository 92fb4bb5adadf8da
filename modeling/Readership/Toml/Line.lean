import Readership.Toml.Quoted
import Readership.Toml.Scalar
import Readership.Toml.Tree

/-!
# Lines of a TOML document

A document is a sequence of lines, except that an array and a text in three
quotes may go on over several of them. A line is empty or a comment, the header
of a table or of an element of an array of tables, or a key with its value.
-/

namespace Readership.Toml

open Text (Reader literal readAll? readList?)

/-- Blanks at the front left out. -/
def skipSpaces (cs : List Char) : List Char :=
  cs.dropWhile isSpace

/-- Blanks, line breaks and comments at the front left out; `comment` says that
a comment has begun. -/
def skipFiller (comment : Bool) : List Char → List Char
  | [] => []
  | '\n' :: rest => skipFiller false rest
  | '\r' :: '\n' :: rest => skipFiller false rest
  | c :: rest =>
    if comment && isTextChar c then skipFiller true rest
    else if isSpace c then skipFiller false rest
    else if c = '#' then skipFiller true rest
    else c :: rest

/-- **The end of a line**: blanks, perhaps a comment, and a line break or the
end of the text. -/
def lineEnd (cs : List Char) : Option (Unit × List Char) :=
  let cs := skipSpaces cs
  let cs :=
    match cs with
    | '#' :: comment => comment.dropWhile isTextChar
    | _ => cs
  match cs with
  | [] => some ((), [])
  | '\n' :: rest => some ((), rest)
  | '\r' :: '\n' :: rest => some ((), rest)
  | _ => none

/-- The characters of a key without quotes. -/
def isKeyChar (c : Char) : Bool :=
  c.isAlphanum || c = '_' || c = '-'

/-- One part of a dotted key. -/
def keyPart : Reader String
  | '"' :: rest => (basicText rest).map fun (cs, rest) => (String.ofList cs, rest)
  | '\'' :: rest => (literalText rest).map fun (cs, rest) => (String.ofList cs, rest)
  | cs =>
    let part := cs.takeWhile isKeyChar
    if part.isEmpty then none else some (String.ofList part, cs.drop part.length)

/-- The parts of a dotted key, with blanks around each of them. -/
def keyParts (cs : List Char) : Option (List String × List Char) := do
  let (part, rest) ← keyPart (skipSpaces cs)
  match skipSpaces rest with
  | '.' :: rest =>
    if rest.length < cs.length then do
      let (parts, rest) ← keyParts rest
      pure (part :: parts, rest)
    else none
  | rest => pure ([part], rest)
termination_by cs.length

/-- **A dotted key**: the tables that it leads through, and the key itself. -/
structure Key where
  path : List String
  last : String
deriving DecidableEq, Repr

/-- The number of arrays and tables around a value, and the number of parts of a
key, that are too many. -/
def depthLimit : Nat := 80

/-- A dotted key. -/
def key : Reader Key := fun cs => do
  let (parts, rest) ← keyParts cs
  let last ← parts.getLast?
  if parts.length < depthLimit then pure (⟨parts.dropLast, last⟩, rest) else none

/-- **A key with its value.** -/
structure Pair where
  key : Key
  value : Value

/-- A key, the sign of equality and a value. -/
def pair (value : Reader Value) : Reader Pair := fun cs => do
  let (k, cs) ← key cs
  let (_, cs) ← literal '=' cs
  let (v, cs) ← value (skipSpaces cs)
  pure (⟨k, v⟩, cs)

/-- The table that pairs make up. -/
def tableOf? (pairs : List Pair) : Option Value := do
  let members ← pairs.foldlM
    (fun members p => Members.assign p.key.path p.key.last p.value .header members) []
  pure (.table (memberValues members))

/-- A text or a word. -/
def plainValue : Reader Value := fun cs =>
  match cs with
  | '"' :: _ | '\'' :: _ =>
    (quotedText cs).map fun (text, rest) => (.text (String.ofList text), rest)
  | _ => scalar cs

/-- **A value** inside of which arrays and tables are nested at most `levels`
deep. -/
def value : Nat → Reader Value
  | 0 => plainValue
  | levels + 1 => fun cs =>
    match cs with
    | '[' :: rest => do
      let (items, rest) ← readList? (skipFiller false) ']' true (value levels) rest
      pure (.array items, rest)
    | '\x7b' :: rest => do
      let (pairs, rest) ← readList? skipSpaces '\x7d' false (pair (value levels)) rest
      let table ← tableOf? pairs
      pure (table, rest)
    | _ => plainValue cs

/-- **A line.** -/
inductive Line where
  | blank
  | pair (p : Pair)
  /-- The header of a table. -/
  | header (k : Key)
  /-- The header of one more table of an array. -/
  | element (k : Key)

/-- A line from its beginning to its end. -/
def line : Reader Line := fun cs =>
  match skipSpaces cs with
  | '[' :: '[' :: rest => do
    let (k, rest) ← key rest
    let (_, rest) ← literal ']' rest
    let (_, rest) ← literal ']' rest
    let (_, rest) ← lineEnd rest
    pure (.element k, rest)
  | '[' :: rest => do
    let (k, rest) ← key rest
    let (_, rest) ← literal ']' rest
    let (_, rest) ← lineEnd rest
    pure (.header k, rest)
  | rest =>
    match lineEnd rest with
    | some (_, rest) => some (.blank, rest)
    | none => do
      let (p, rest) ← pair (value (depthLimit - 1)) rest
      let (_, rest) ← lineEnd rest
      pure (.pair p, rest)

/-- **The lines of a text.** -/
def lines? (cs : List Char) : Option (List Line) :=
  readAll? line cs

end Readership.Toml

import Readership.Text.Reader

/-!
# Texts of TOML

A text stands between double quotes, with escapes, or between single quotes, as
it is. With three quotes at either end it may run over several lines; a line
break right after the opening quotes does not count, and a text may end in one
or two quotes of its own.
-/

namespace Readership.Toml

open Text (Reader)

/-- A blank or a tab. -/
def isSpace (c : Char) : Bool :=
  c = ' ' || c = '\t'

/-- The characters of texts and comments: everything but controls, the tab
allowed. -/
def isTextChar (c : Char) : Bool :=
  c = '\t' || (32 ≤ c.toNat && c.toNat ≠ 127)

/-- The character that a letter after a backslash stands for. -/
def escaped? (c : Char) : Option Char :=
  match c with
  | 'b' => some (Char.ofNat 8)
  | 't' => some '\t'
  | 'n' => some '\n'
  | 'f' => some (Char.ofNat 12)
  | 'r' => some '\r'
  | '"' => some '"'
  | '\\' => some '\\'
  | _ => none

/-- The character with a number in hexadecimal digits. -/
def numberedChar? (digits : List Char) : Option Char := do
  let n ← Numeral.hexNumber? digits
  if n.isValidChar then pure (Char.ofNat n) else none

/-- One more character in front of a text that was read. -/
def prepend (c : Option Char) (read : Option (List Char × List Char)) :
    Option (List Char × List Char) := do
  let c ← c
  let (cs, rest) ← read
  pure (c :: cs, rest)

/-- **A text in one line**, after its opening double quote. -/
def basicText : Reader (List Char)
  | [] => none
  | '"' :: rest => some ([], rest)
  | '\\' :: 'u' :: a :: b :: c :: d :: rest =>
    prepend (numberedChar? [a, b, c, d]) (basicText rest)
  | '\\' :: 'U' :: a :: b :: c :: d :: e :: f :: g :: h :: rest =>
    prepend (numberedChar? [a, b, c, d, e, f, g, h]) (basicText rest)
  | '\\' :: c :: rest => prepend (escaped? c) (basicText rest)
  | c :: rest =>
    if c = '\\' then none
    else if isTextChar c then prepend (some c) (basicText rest) else none

/-- A text in one line as it is, after its opening single quote. -/
def literalText (cs : List Char) : Option (List Char × List Char) :=
  match cs.dropWhile fun c => isTextChar c && c != '\'' with
  | '\'' :: rest => some (cs.takeWhile fun c => isTextChar c && c != '\'', rest)
  | _ => none

/-- The end of a text over several lines, after three quotes: quotes that belong
to the text, and what follows. -/
def closing (mark : Char) (cs : List Char) : List Char × List Char :=
  let own := (cs.take 2).takeWhile (· = mark)
  (own, cs.drop own.length)

/-- A line break at the front left out. -/
def dropNewline : List Char → List Char
  | '\n' :: rest => rest
  | '\r' :: '\n' :: rest => rest
  | cs => cs

/-- Whether a line ends after blanks. -/
def endsLine (cs : List Char) : Bool :=
  match cs.dropWhile isSpace with
  | '\n' :: _ => true
  | '\r' :: '\n' :: _ => true
  | _ => false

/-- **A text over several lines**, after its three opening double quotes. After
a backslash at the end of a line, `skipping` leaves out blanks and line breaks
up to the next character. -/
def basicLines (skipping : Bool) : Reader (List Char)
  | [] => none
  | '"' :: '"' :: '"' :: rest => some (closing '"' rest)
  | '\n' :: rest =>
    if skipping then basicLines true rest else prepend (some '\n') (basicLines false rest)
  | '\r' :: '\n' :: rest =>
    if skipping then basicLines true rest else prepend (some '\n') (basicLines false rest)
  | '\\' :: 'u' :: a :: b :: c :: d :: rest =>
    prepend (numberedChar? [a, b, c, d]) (basicLines false rest)
  | '\\' :: 'U' :: a :: b :: c :: d :: e :: f :: g :: h :: rest =>
    prepend (numberedChar? [a, b, c, d, e, f, g, h]) (basicLines false rest)
  | '\\' :: c :: rest =>
    if endsLine (c :: rest) then basicLines true (c :: rest)
    else prepend (escaped? c) (basicLines false rest)
  | c :: rest =>
    if c = '\\' then none
    else if skipping && isSpace c then basicLines true rest
    else if isTextChar c then prepend (some c) (basicLines false rest) else none

/-- A text over several lines as it is, after its three opening single quotes. -/
def literalLines : Reader (List Char)
  | [] => none
  | '\'' :: '\'' :: '\'' :: rest => some (closing '\'' rest)
  | '\n' :: rest => prepend (some '\n') (literalLines rest)
  | '\r' :: '\n' :: rest => prepend (some '\n') (literalLines rest)
  | c :: rest => if isTextChar c then prepend (some c) (literalLines rest) else none

/-- **A text in quotes of any kind.** -/
def quotedText : Reader (List Char)
  | '"' :: '"' :: '"' :: rest => basicLines false (dropNewline rest)
  | '"' :: rest => basicText rest
  | '\'' :: '\'' :: '\'' :: rest => literalLines (dropNewline rest)
  | '\'' :: rest => literalText rest
  | _ => none

end Readership.Toml

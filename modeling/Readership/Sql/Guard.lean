import Readership.Text.Blank
import Readership.Text.Case
import Readership.Text.Search

/-!
# The guard before a server

A statement is looked at before it is sent, and only one reading statement
passes. The insides of string literals are taken out first, since text in them
means nothing to the server. In what is left the guard looks for the first
word, for a semicolon before the end, and for two words between blanks that
would write elsewhere or choose another form of answer.
-/

namespace Readership.Sql

/-- **Why a statement is not sent.** -/
inductive Refusal where
  | notAQuery
  | selectInto
  | severalStatements
  | formatClause
deriving DecidableEq, Repr

/-- The message about a statement that is not sent. -/
def Refusal.message : Refusal → String
  | notAQuery => "only SELECT and WITH queries are allowed"
  | selectInto => "SELECT INTO is not allowed"
  | severalStatements => "multiple statements not allowed"
  | formatClause => "FORMAT clause is set by the backend"

mutual

/-- **A statement without the insides of its string literals**, from outside a
literal. -/
def stripOutside : List Char → List Char
  | [] => []
  | c :: rest => c :: (if c = '\'' then stripInside rest else stripOutside rest)

/-- The same from inside a literal. A backslash hides the character after it,
a quote written twice is part of the literal, a single quote ends it. -/
def stripInside : List Char → List Char
  | [] => []
  | '\\' :: rest => stripHidden rest
  | '\'' :: rest => stripAfterQuote rest
  | _ :: rest => stripInside rest

/-- The same after a backslash inside a literal. -/
def stripHidden : List Char → List Char
  | [] => []
  | _ :: rest => stripInside rest

/-- The same after a quote inside a literal. -/
def stripAfterQuote : List Char → List Char
  | [] => ['\'']
  | c :: rest =>
    if c = '\'' then stripInside rest else '\'' :: c :: stripOutside rest

end

/-- A statement without the insides of its string literals. -/
def stripLiterals (cs : List Char) : List Char :=
  stripOutside cs

/-- What the guard looks at: a statement without the insides of literals and
without the white space around it. -/
def guarded (cs : List Char) : List Char :=
  Text.trim (stripLiterals cs)

/-- Semicolons at the end taken off. -/
def dropSemicolons (cs : List Char) : List Char :=
  Text.dropTrailing (· == ';') cs

/-- **The guard.** The first reason to refuse a statement, if there is one. -/
def refusal? (cs : List Char) : Option Refusal :=
  let seen := guarded cs
  let capitals := Text.upper seen
  if !"SELECT".toList.isPrefixOf capitals && !"WITH".toList.isPrefixOf capitals then
    some .notAQuery
  else if Text.occursIn " INTO ".toList capitals then some .selectInto
  else if (dropSemicolons seen).contains ';' then some .severalStatements
  else if Text.occursIn " FORMAT ".toList capitals then some .formatClause
  else none

end Readership.Sql

import Readership.Number.Numeral

/-!
# Tables in columns

A table has a column of labels, wide enough for its longest label but not
wider than forty, and two columns of numbers of twelve characters. Labels stand
on the left of their column and numbers on the right; a label that is too long
is cut and ends in three dots.

The width is taken from the labels' sizes in bytes, so a label outside of ASCII
gets more room than it needs.
-/

namespace Readership.Report.Columns

/-- **A line of a table**: a label and two numbers, or their titles. -/
structure Line where
  label : String
  first : String
  second : String
deriving DecidableEq, Repr

/-- The widest column of labels. -/
def maxWidth : Nat := 40

/-- The width of a column of numbers. -/
def numberWidth : Nat := 12

/-- A text at the left of a column; one that is too long stays whole. -/
def padEnd (width : Nat) (cs : List Char) : List Char :=
  cs ++ List.replicate (width - cs.length) ' '

/-- A text at the right of a column. -/
def padStart (width : Nat) (cs : List Char) : List Char :=
  List.replicate (width - cs.length) ' ' ++ cs

/-- **A label that fits**, cut if need be. -/
def shorten (width : Nat) (cs : List Char) : List Char :=
  if cs.length ≤ width then cs else cs.take (width - 3) ++ ['.', '.', '.']

/-- The width of the column of labels. -/
def labelWidth (title : Line) (lines : List Line) : Nat :=
  min ((title :: lines).foldl (fun w l => max w l.label.utf8ByteSize) 0) maxWidth

/-- A line as text, two blanks between its columns. -/
def lineChars (width : Nat) (l : Line) : List Char :=
  padEnd width (shorten width l.label.toList)
    ++ ' ' :: ' ' :: padStart numberWidth l.first.toList
    ++ ' ' :: ' ' :: padStart numberWidth l.second.toList ++ ['\n']

/-- A rule as long as a line. -/
def ruleChars (width : Nat) : List Char :=
  List.replicate (width + 2 * (numberWidth + 2)) '-' ++ ['\n']

/-- **A table** with its titles above and the number of its lines below. -/
def text (title : Line) (lines : List Line) : String :=
  if lines.isEmpty then "(no data)\n"
  else
    let width := labelWidth title lines
    String.ofList (lineChars width title ++ ruleChars width ++ lines.flatMap (lineChars width)
      ++ ruleChars width) ++ "Rows: " ++ Numeral.ofNat lines.length ++ "\n"

end Readership.Report.Columns

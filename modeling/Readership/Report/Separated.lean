import Readership.Number.Numeral

/-!
# Comma-separated values

A record is a line of fields with commas between them. A field that holds a
comma, a quote or a line feed is put between double quotes, and a quote in it
is written twice; every other field stands as it is.
-/

namespace Readership.Report.Separated

/-- The characters that a bare field cannot hold. -/
def isSpecial (c : Char) : Bool :=
  c = ',' || c = '"' || c = '\n'

/-- A character between quotes. -/
def escapeChar (c : Char) : List Char :=
  if c = '"' then ['"', '"'] else [c]

/-- **A field.** -/
def field (cs : List Char) : List Char :=
  if cs.any isSpecial then '"' :: cs.flatMap escapeChar ++ ['"'] else cs

/-- **A record**, up to the end of its line. -/
def record : List (List Char) → List Char
  | [] => []
  | [cs] => field cs
  | cs :: next :: rest => field cs ++ ',' :: record (next :: rest)

/-- **A text of records**, each with the end of its line. -/
def records (rs : List (List (List Char))) : List Char :=
  rs.flatMap fun r => record r ++ ['\n']

@[simp] theorem record_nil : record [] = [] := rfl

@[simp] theorem record_singleton (cs : List Char) : record [cs] = field cs := rfl

@[simp] theorem record_cons_cons (cs next : List Char) (rest : List (List Char)) :
    record (cs :: next :: rest) = field cs ++ ',' :: record (next :: rest) := rfl

@[simp] theorem records_nil : records [] = [] := rfl

@[simp] theorem records_cons (r : List (List Char)) (rs : List (List (List Char))) :
    records (r :: rs) = record r ++ '\n' :: records rs := by
  simp [records]

end Readership.Report.Separated

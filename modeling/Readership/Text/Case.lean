import Readership.Text.CaseTable

/-!
# Small and capital letters

Parameters are compared in small letters and substrings are searched for in
small letters, by the full case mapping of Unicode. That mapping is almost a
matter of single characters. The exception is the Greek capital sigma, whose
small form at the end of a word is `ς` and elsewhere `σ`: so the small form of
a piece of a text need not be a piece of its small form.
-/

namespace Readership.Text

/-- Whether the first character that is not ignorable for case has case. -/
def startsCased (cs : List Char) : Bool :=
  match cs.dropWhile (inRanges caseIgnorableRanges) with
  | [] => false
  | c :: _ => inRanges casedRanges c

/-- The small form of a character on its own. Only the dotted capital I has
one of two characters. -/
def lowerChar (c : Char) : List Char :=
  if c.toNat < 128 then [c.toLower]
  else if c.toNat = 0x130 then ['i', '\u0307']
  else [mapCase lowerRuns c]

/-- **Small letters** of a text whose characters so far are `before`, last one
first. A capital sigma is final when a letter stands before it and none after. -/
def lowerFrom (before : List Char) : List Char → List Char
  | [] => []
  | c :: rest =>
    (if c = 'Σ' then [if startsCased before && !startsCased rest then 'ς' else 'σ']
      else lowerChar c) ++ lowerFrom (c :: before) rest

/-- The text in small letters. -/
def lower (cs : List Char) : List Char :=
  lowerFrom [] cs

/-- The text in small letters. -/
def lowercase (s : String) : String :=
  String.ofList (lower s.toList)

/-- The capital form of a character; a sharp s, for instance, has two letters. -/
def upperChar (c : Char) : List Char :=
  if c.toNat < 128 then [c.toUpper]
  else match longCapitals.lookup c.toNat with
    | some capitals => capitals.map Char.ofNat
    | none => [mapCase upperRuns c]

/-- The text in capital letters. -/
def upper (cs : List Char) : List Char :=
  cs.flatMap upperChar

/-- A text whose ASCII capitals are made small; other characters stay. -/
def lowercaseAscii (s : String) : String :=
  String.ofList (s.toList.map Char.toLower)

@[simp] theorem upper_nil : upper [] = [] := rfl

@[simp] theorem upper_append (a b : List Char) : upper (a ++ b) = upper a ++ upper b :=
  List.flatMap_append

@[simp] theorem upper_cons (c : Char) (cs : List Char) :
    upper (c :: cs) = upperChar c ++ upper cs := rfl

/-- Characters of ASCII have one capital each. -/
theorem upperChar_of_lt {c : Char} (h : c.toNat < 128) : upperChar c = [c.toUpper] := by
  simp [upperChar, h]

@[simp] theorem lowerFrom_nil (before : List Char) : lowerFrom before [] = [] := rfl

end Readership.Text

import Readership.Number.Numeral
import Readership.Text.Case
import Readership.Text.Search
import Readership.Text.Unseen
import Readership.Url.DomainTable
import Readership.Url.Punycode

/-!
# Domain names

A domain name is a row of labels with dots between them. What is typed is first
made even – bytes after percent signs are read, capitals become small, wide
letters become plain, and characters that cannot be seen are dropped – and then
each label is checked by itself: it starts with no mark that would attach to a
dot, its joiners join, and its letters do not run both ways.

Letters in compatibility forms other than the wide ones are taken as they are:
they are accepted like the letters they stand for.
-/

namespace Readership.Url

/-! ## Reading -/

/-- **The bytes of a text** in which a percent sign and two digits of base 16
stand for one byte. -/
def percentBytes : List Char → List UInt8
  | [] => []
  | '%' :: a :: b :: rest =>
    match Numeral.hexValue? a, Numeral.hexValue? b with
    | some high, some low => UInt8.ofNat (16 * high + low) :: percentBytes rest
    | _, _ => 37 :: percentBytes (a :: b :: rest)
  | c :: rest => String.utf8EncodeChar c ++ percentBytes rest

/-- The text of those bytes, if they are UTF-8. -/
def percentDecoded? (cs : List Char) : Option (List Char) :=
  (String.fromUTF8? ⟨(percentBytes cs).toArray⟩).map String.toList

/-- The characters of ASCII that no domain name holds. -/
def isRefusedAscii (c : Char) : Bool :=
  c.toNat ≤ 32 || c.toNat == 127 || "%#/:<>?@[\\]^|".toList.contains c

/-- A character of ASCII in a domain name. -/
def evenAscii (c : Char) : Option (List Char) :=
  if isRefusedAscii c then none else some [c.toLower]

/-- The character that keeps its neighbours apart. -/
def nonJoiner : Char := '\u200C'

/-- The character that joins its neighbours. -/
def joiner : Char := '\u200D'

/-- **What becomes of a character** of a domain name; `none` if it is refused. -/
def even? (c : Char) : Option (List Char) :=
  let n := c.toNat
  if n < 128 then evenAscii c
  else if n == 0x3002 || n == 0xFF61 then some ['.']
  else if 0xFF01 ≤ n && n ≤ 0xFF5E then evenAscii (Char.ofNat (n - 0xFEE0))
  else if c = nonJoiner || c = joiner then some [c]
  else if Text.inRanges droppedRanges c then some []
  else if Text.isHidden c || Text.inRanges refusedRanges c then none
  else some (Text.lowerChar c)

/-- What becomes of a text. -/
def evened? (cs : List Char) : Option (List Char) :=
  (cs.mapM even?).map List.flatten

/-! ## Labels -/

/-- The mark of a label that is written in ASCII for other letters. -/
def codedMark : List Char := "xn--".toList

/-- **The text of a label.** What a coded label stands for has to be something
that would have been coded, and must be even already. -/
def labelText? (label : List Char) : Option (List Char) :=
  match Text.after? codedMark label with
  | none => some label
  | some code => do
    let text ← Punycode.decode? code
    if text.any (fun c => 128 ≤ c.toNat) && text.all (fun c => even? c == some [c])
        && !codedMark.isPrefixOf text then some text
    else none

/-- Whether each joiner of a label has something to join, given the characters
before them, last one first. -/
def joinersFit (before : List Char) : List Char → Bool
  | [] => true
  | c :: rest =>
    let killed := before.head?.any (Text.inRanges vowelKillerRanges)
    let between :=
      (before.dropWhile Text.isAttaching).head?.any (Text.inRanges joinsNextRanges)
        && (rest.dropWhile Text.isAttaching).head?.any (Text.inRanges joinsPreviousRanges)
    (if c = nonJoiner then killed || between else if c = joiner then killed else true)
      && joinersFit (c :: before) rest

/-- Whether a character needs one before it. -/
def isMark (c : Char) : Bool :=
  Text.isAttaching c || Text.inRanges besideRanges c

/-- Whether a label can stand by itself. -/
def labelFits (label : List Char) : Bool :=
  !label.head?.any isMark && joinersFit [] label

/-! ## Directions -/

/-- **The direction** in which a character is written. -/
inductive Direction where
  | leftToRight
  | rightToLeft
  | arabicDigit
  | digit
  | neutral
  /-- That of the character before it. -/
  | attached
deriving DecidableEq, Repr

namespace Direction

/-- The direction of a character. -/
def ofChar (c : Char) : Direction :=
  if Text.isAttaching c then attached
  else if Text.inRanges rightToLeftRanges c then rightToLeft
  else if Text.inRanges arabicDigitRanges c then arabicDigit
  else if Text.inRanges digitRanges c then digit
  else if Text.inRanges neutralRanges c then neutral
  else leftToRight

/-- Whether a name with a character of this direction has to mind directions. -/
def matters : Direction → Bool
  | rightToLeft | arabicDigit => true
  | _ => false

/-- The direction in which a label ends. -/
def ending? (ds : List Direction) : Option Direction :=
  (ds.reverse.dropWhile (· == attached)).head?

/-- **Whether a label runs one way.** Its first character tells which; digits may
stand in both, but not both kinds of them. -/
def agree : List Direction → Bool
  | [] => true
  | rightToLeft :: ds =>
    !ds.contains leftToRight && !(ds.contains digit && ds.contains arabicDigit)
      && (ending? (rightToLeft :: ds)).any fun d =>
        d == rightToLeft || d == digit || d == arabicDigit
  | leftToRight :: ds =>
    ds.all (fun d => !d.matters)
      && (ending? (leftToRight :: ds)).any fun d => d == leftToRight || d == digit
  | _ => false

end Direction

/-- Whether each label runs one way, in a name in which that matters. -/
def directionsAgree (labels : List (List Char)) : Bool :=
  let directions := labels.map (List.map Direction.ofChar)
  !directions.any (List.any · Direction.matters) || directions.all Direction.agree

/-! ## Names -/

/-- **A domain name**: its labels, if the text is one. -/
def domain? (cs : List Char) : Option (List (List Char)) := do
  let text ← percentDecoded? cs
  let name ← evened? text
  let labels ← (Text.splitAt '.' name).mapM labelText?
  if !name.isEmpty && labels.all labelFits && directionsAgree labels then some labels else none

/-- No name at all is no domain name. -/
theorem domain?_nil : domain? [] = none := by
  decide +kernel

end Readership.Url

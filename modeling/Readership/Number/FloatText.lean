import Readership.Number.Numeral
import Readership.Number.Shortest

/-!
# Doubles as text

Two layouts of the shortest digits. A document writes small and large numbers
with an exponent and keeps a decimal in every other one, so that a double never
looks like an integer; a table writes plain decimals only and leaves out a
decimal part that is zero. The digits are the same in both, unless two decimals
are equally near to the double: `796456568649756.25` needs one decimal to be
told apart from its neighbours, which is a 2 in a document and a 3 in a table.
-/

namespace Readership.Number

/-- **A layout of digits.** -/
structure FloatLayout where
  /-- The least and greatest exponent of the first digit that is written
  without an exponent; `none` if every number is. -/
  positional : Option (Int × Int)
  /-- Whether a number without decimals is written with one zero. -/
  keepsDecimal : Bool
  /-- Which of two equally near decimals is written. -/
  tie : Tie
deriving DecidableEq, Repr

/-- Documents: from `0.00001` to sixteen digits before the point without an
exponent, ties to the even digit. -/
def documentLayout : FloatLayout := ⟨some (-5, 15), true, .toEven⟩

/-- Tables and lists: never an exponent, ties away from zero. -/
def plainLayout : FloatLayout := ⟨none, false, .toGreater⟩

/-- The digits before the decimal point, which stands after `point` digits. -/
def wholePart (digits : List Char) (point : Int) : List Char :=
  if point ≤ 0 then ['0']
  else digits.take point.toNat ++ List.replicate (point.toNat - digits.length) '0'

/-- The digits after the decimal point. -/
def decimals (digits : List Char) (point : Int) : List Char :=
  if point ≤ 0 then List.replicate (-point).toNat '0' ++ digits
  else digits.drop point.toNat

/-- Digits with a point among them. -/
def positionalText (layout : FloatLayout) (digits : List Char) (point : Int) : List Char :=
  let rest := decimals digits point
  let rest := if rest.isEmpty && layout.keepsDecimal then ['0'] else rest
  wholePart digits point ++ (if rest.isEmpty then [] else '.' :: rest)

/-- One digit, the others after a point, and the exponent with its sign. -/
def exponentText (digits : List Char) (exponent : Int) : List Char :=
  digits.take 1 ++ (if digits.length ≤ 1 then [] else '.' :: digits.drop 1)
    ++ 'e' :: (if exponent < 0 then '-' else '+') :: Numeral.digits exponent.natAbs

/-- The magnitude of a finite double. -/
def magnitudeText (layout : FloatLayout) (x : Float) : List Char :=
  let decimal := shortest layout.tie x
  if decimal.digits = 0 then positionalText layout ['0'] 1
  else
    let digits := Numeral.digits decimal.digits
    let point := decimal.exponent + digits.length
    match layout.positional with
    | some (least, greatest) =>
      if least ≤ point - 1 && point - 1 ≤ greatest then positionalText layout digits point
      else exponentText digits (point - 1)
    | none => positionalText layout digits point

/-- **A finite double as text.** -/
def floatText (layout : FloatLayout) (x : Float) : String :=
  String.ofList ((if isNegative x then ['-'] else []) ++ magnitudeText layout x)

end Readership.Number

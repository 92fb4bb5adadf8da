import Readership.Json.Basic

/-!
# What a number of a JSON text denotes

A number without decimal point and exponent is an integer as long as it fits a
64-bit word; minus zero is a double. Every other number is a double, found in
two steps that each round: the leading digits that fit an unsigned word are
converted, then one multiplication or division by a power of ten follows.
Digits beyond those only count as zeros. A number whose magnitude exceeds
every double denotes nothing.
-/

namespace Readership.Json

/-- **A number as written**: sign, digits before the point, digits after it,
and the exponent with its sign. -/
structure NumberLexeme where
  negative : Bool
  whole : List Char
  decimals : Option (List Char)
  exponent : Option (Bool × List Char)
deriving DecidableEq, Repr

namespace NumberLexeme

/-- The greatest value of an unsigned 64-bit word. -/
def wordMax : Nat := 18446744073709551615

/-- Leading digits whose value fits a word, after `start`, and the number of
digits left over. -/
def fill (start : Nat) : List Char → Nat × Nat
  | [] => (start, 0)
  | c :: rest =>
    let next := 10 * start + Numeral.digitValue c
    if next ≤ wordMax then fill next rest else (start, rest.length + 1)

/-- The double nearest to `10 ^ k`. -/
def powerOfTen (k : Nat) : Float :=
  Float.ofScientific 1 false k

/-- A double divided by `10 ^ k`, in steps that stay within the doubles. -/
def scaleDown (x : Float) (k : Nat) : Float :=
  if k ≤ 308 then x / powerOfTen k
  else if x == 0 then x
  else scaleDown (x / powerOfTen 308) (k - 308)
termination_by k

/-- A double times `10 ^ e`, unless the result exceeds every double. -/
def scale (x : Float) (e : Int) : Option Float :=
  if e < 0 then some (scaleDown x (-e).toNat)
  else if e ≤ 308 then
    let y := x * powerOfTen e.toNat
    if y.isInf then none else some y
  else if x == 0 then some x
  else none

/-- The magnitude as a double. -/
def magnitude? (lexeme : NumberLexeme) : Option Float :=
  let (lead, skipped) := fill 0 lexeme.whole
  let fraction := lexeme.decimals.getD []
  let (significand, unread) := fill lead fraction
  let shift : Int := skipped - (fraction.length - unread : Nat)
  let x := significand.toUInt64.toFloat
  match lexeme.exponent with
  | none => scale x shift
  | some (negative, digits) =>
    let e : Int := Numeral.value digits
    if e ≤ 2147483647 then scale x (if negative then shift - e else shift + e)
    else if significand = 0 || negative then some 0
    else none

/-- **The number that a lexeme denotes.** -/
def number? (lexeme : NumberLexeme) : Option Number :=
  let n := Numeral.value lexeme.whole
  if lexeme.decimals.isNone && lexeme.exponent.isNone
      && (if lexeme.negative then 0 < n && n ≤ 9223372036854775808 else n ≤ wordMax) then
    some (.int (if lexeme.negative then -n else n))
  else
    lexeme.magnitude?.map fun x => .float (if lexeme.negative then -x else x)

end NumberLexeme

end Readership.Json

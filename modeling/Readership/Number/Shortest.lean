/-!
# The shortest decimal of a double

A double is written with the fewest digits that read back as the same double,
and among those with the digits nearest to it. A double `m · 2^q` is what all
reals between two midpoints round to: half a step below and half a step above,
the midpoints included exactly if `m` is even. Walking from coarse decimal
grids to fine ones, the first grid with a point in that interval gives the
fewest digits, and only the two grid points around the double need a look.
Both can be equally near to the double; which one is written then is a
decision of the format.
-/

namespace Readership.Number

/-- **The choice between two decimals** at the same distance from a double. -/
inductive Tie where
  /-- The one whose last digit is even. -/
  | toEven
  /-- The greater one. -/
  | toGreater
deriving DecidableEq, Repr

/-- The choice between `below` and the number after it. -/
def Tie.choose : Tie → Nat → Nat
  | toEven, below => if below % 2 = 0 then below else below + 1
  | toGreater, below => below + 1

/-- Only the two neighbours can be chosen. -/
theorem Tie.choose_eq (tie : Tie) (below : Nat) :
    tie.choose below = below ∨ tie.choose below = below + 1 := by
  cases tie with
  | toEven =>
    dsimp only [choose]
    split <;> simp
  | toGreater => exact Or.inr rfl

/-- The even neighbour is even. -/
theorem Tie.choose_toEven (below : Nat) : toEven.choose below % 2 = 0 := by
  dsimp only [choose]
  split <;> omega

/-- **A decimal**: the number `digits · 10 ^ exponent`. -/
structure Decimal where
  digits : Nat
  exponent : Int
deriving DecidableEq, Repr

/-- **The reals that round to a double.** The double itself and the two ends
of the interval, all as multiples of `2 ^ scale`. -/
structure RoundingInterval where
  low : Nat
  middle : Nat
  high : Nat
  scale : Int
  /-- Whether the ends belong to the interval. -/
  closed : Bool
deriving DecidableEq, Repr

namespace RoundingInterval

/-- The interval of the finite double with these bits, sign apart. Below a
power of two the steps are half as wide. -/
def ofBits (bits : Nat) : RoundingInterval :=
  let fraction : Nat := bits % Nat.pow 2 52
  let biased : Nat := bits / Nat.pow 2 52 % 2048
  let significand := if biased = 0 then fraction else fraction + Nat.pow 2 52
  let scale : Int := if biased = 0 then -1074 else (biased : Int) - 1075
  { low := 4 * significand - (if fraction = 0 && biased > 1 then 1 else 2)
    middle := 4 * significand
    high := 4 * significand + 2
    scale := scale - 2
    closed := significand % 2 == 0 }

variable (v : RoundingInterval)

/-- The numerator of `n · 2 ^ scale` counted in units of `10 ^ k`. -/
def numerator (k : Int) (n : Nat) : Nat :=
  n * Nat.pow 2 v.scale.toNat * Nat.pow 10 (-k).toNat

/-- The denominator that goes with `numerator`. -/
def denominator (k : Int) : Nat :=
  Nat.pow 2 (-v.scale).toNat * Nat.pow 10 k.toNat

/-- Whether `c · 10 ^ k` rounds to the double. -/
def holds (k : Int) (c : Nat) : Bool :=
  let point := c * v.denominator k
  if v.closed then v.numerator k v.low ≤ point && point ≤ v.numerator k v.high
  else v.numerator k v.low < point && point < v.numerator k v.high

/-- The point of the grid of step `10 ^ k` that rounds to the double and lies
nearest to it; of two at the same distance, the one that `tie` chooses. -/
def nearestOn (tie : Tie) (k : Int) : Option Nat :=
  let middle := v.numerator k v.middle
  let below := middle / v.denominator k
  match v.holds k below, v.holds k (below + 1) with
  | true, false => some below
  | false, true => some (below + 1)
  | false, false => none
  | true, true =>
    match compare (2 * middle) ((2 * below + 1) * v.denominator k) with
    | .lt => some below
    | .gt => some (below + 1)
    | .eq => some (tie.choose below)

/-- A power of ten above the double: its exponent exceeds the logarithm to
base ten by less than three. -/
def coarsest : Int :=
  (Nat.log2 v.middle + v.scale) * 1233 / 4096 + 2

/-- The first hit on grids of ever smaller step. -/
def firstHit (tie : Tie) (k : Int) : Nat → Decimal
  | 0 => ⟨0, k⟩
  | steps + 1 =>
    match v.nearestOn tie k with
    | some c => ⟨c, k⟩
    | none => firstHit tie (k - 1) steps

end RoundingInterval

/-- A decimal whose last digit is not zero. -/
def Decimal.stripped (digits : Nat) (exponent : Int) : Nat → Decimal
  | 0 => ⟨digits, exponent⟩
  | steps + 1 =>
    if digits % 10 = 0 && digits ≠ 0 then stripped (digits / 10) (exponent + 1) steps
    else ⟨digits, exponent⟩

/-- **The shortest decimal** that reads back as the magnitude of a finite
double. Seventeen digits always suffice, and the walk starts at most three
grids too coarse. -/
def shortest (tie : Tie) (x : Float) : Decimal :=
  let v := RoundingInterval.ofBits (x.toBits.toNat % Nat.pow 2 63)
  let hit := v.firstHit tie v.coarsest 22
  Decimal.stripped hit.digits hit.exponent 22

/-- Whether the sign bit is set; it also tells the two zeros apart. -/
def isNegative (x : Float) : Bool :=
  x.toBits.toNat / Nat.pow 2 63 == 1

end Readership.Number

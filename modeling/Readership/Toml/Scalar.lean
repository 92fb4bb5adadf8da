import Readership.Calendar.Reader
import Readership.Text.Search
import Readership.Toml.Value

/-!
# Numbers, truth values and moments of TOML

A value without quotes and brackets is one word of letters, digits and a few
signs, and the word as a whole says what it is. Only a date with the time of
day after a blank is two words.
-/

namespace Readership.Toml

open Text (Reader literal fixedNumber)

/-- The characters of a word. -/
def isWordChar (c : Char) : Bool :=
  c.isAlphanum || c = '+' || c = '-' || c = '_' || c = '.' || c = ':'

/-- **Digits in groups**: single underscores may stand between digits. The
digits without them. -/
def grouped? (isDigit : Char → Bool) : List Char → Option (List Char)
  | [] => none
  | [c] => if isDigit c then some [c] else none
  | c :: '_' :: rest => if isDigit c then (grouped? isDigit rest).map (c :: ·) else none
  | c :: rest => if isDigit c then (grouped? isDigit rest).map (c :: ·) else none

/-- Decimal digits without a needless zero in front. -/
def wholeDigits? (cs : List Char) : Option (List Char) :=
  if cs.head? = some '0' && cs != ['0'] then none else grouped? Char.isDigit cs

/-- A sign, which may be missing: whether it is a minus, and what follows. -/
def signed (cs : List Char) : Bool × List Char :=
  match cs with
  | '-' :: rest => (true, rest)
  | '+' :: rest => (false, rest)
  | _ => (false, cs)

/-- An integer that fits a signed word of 64 bits. -/
def wordInteger? (n : Int) : Option Value :=
  if Numeral.fitsSigned n then some (.integer n) else none

/-- The number that digits spell in a base of at most sixteen. -/
def digitsInBase? (base : Nat) (cs : List Char) : Option Nat := do
  let digits ← cs.mapM Numeral.hexValue?
  pure (digits.foldl (fun n d => base * n + d) 0)

/-- An integer in a base other than ten, after its mark. -/
def basedInteger? (base : Nat) (cs : List Char) : Option Value := do
  let digits ← grouped? (fun c => (Numeral.hexValue? c).any (· < base)) cs
  let n ← digitsInBase? base digits
  wordInteger? n

/-- **An integer.** -/
def integer? : List Char → Option Value
  | '0' :: 'x' :: cs => basedInteger? 16 cs
  | '0' :: 'o' :: cs => basedInteger? 8 cs
  | '0' :: 'b' :: cs => basedInteger? 2 cs
  | cs => do
    let (negative, cs) := signed cs
    let digits ← wholeDigits? cs
    wordInteger? (if negative then -(Numeral.value digits : Int) else Numeral.value digits)

/-- The exponents of ten outside of which no double is found. -/
def farExponent : Nat := 400

/-- The double nearest to a whole number times a power of ten. -/
def nearestFloat (n : Nat) (exponent : Int) : Float :=
  let leading : Int := (Numeral.digits n).length + exponent
  if n = 0 || leading < -farExponent then 0.0
  else if farExponent < leading then 1.0 / 0.0
  else Float.ofScientific n (exponent < 0) exponent.natAbs

/-- The exponent of a number with a decimal point or an exponent. -/
def exponent? (cs : List Char) : Option Int := do
  let (negative, cs) := signed cs
  let digits ← grouped? Char.isDigit cs
  let n : Int := Numeral.value digits
  pure (if negative then -n else n)

/-- The characters before the first one that `p` accepts, and those after it if
there is one. -/
def cut (p : Char → Bool) (cs : List Char) : List Char × Option (List Char) :=
  match cs.dropWhile (!p ·) with
  | [] => (cs, none)
  | _ :: rest => (cs.takeWhile (!p ·), some rest)

/-- **A double in digits.** One that is greater than every double is refused. -/
def decimal? (cs : List Char) : Option Value := do
  let (negative, cs) := signed cs
  let (significand, exponent) := cut (fun c => c = 'e' || c = 'E') cs
  let (whole, decimals) := cut (· = '.') significand
  if decimals.isNone && exponent.isNone then none
  else
    let whole ← wholeDigits? whole
    let decimals ← decimals.mapM (grouped? Char.isDigit)
    let shift ← exponent.mapM exponent?
    let places := decimals.getD []
    let x := nearestFloat (Numeral.value (whole ++ places)) (shift.getD 0 - places.length)
    if x.isInf && !negative then none else pure (.float (if negative then -x else x))

/-- A double in words. -/
def wordFloat? (cs : List Char) : Option Value :=
  match signed cs with
  | (negative, ['i', 'n', 'f']) => some (.float (if negative then -(1.0 / 0.0) else 1.0 / 0.0))
  | (_, ['n', 'a', 'n']) => some (.float (0.0 / 0.0))
  | _ => none

/-- A truth value. -/
def boolean? : List Char → Option Value
  | ['t', 'r', 'u', 'e'] => some (.boolean true)
  | ['f', 'a', 'l', 's', 'e'] => some (.boolean false)
  | _ => none

/-- A date in ten characters. -/
def fullDate : Reader Date := fun cs => do
  let (y, cs) ← fixedNumber 4 cs
  let (_, cs) ← literal '-' cs
  let (m, cs) ← fixedNumber 2 cs
  let (_, cs) ← literal '-' cs
  let (d, cs) ← fixedNumber 2 cs
  let date ← Date.of? y m d
  pure (date, cs)

/-- A time of day to the second or beyond. -/
def fullClock : Reader (Nat × Nat) := fun cs => do
  let (h, cs) ← fixedNumber 2 cs
  let (_, cs) ← literal ':' cs
  let (m, cs) ← fixedNumber 2 cs
  let (_, cs) ← literal ':' cs
  let (s, cs) ← fixedNumber 2 cs
  let (n, cs) ← Calendar.fraction cs
  let clock ← Calendar.clockOf h m s n
  pure (clock, cs)

/-- The offset that ends a word, in minutes. -/
def offset? (cs : List Char) : Option Int :=
  match cs with
  | ['Z'] | ['z'] => some 0
  | _ => do
    let (negative, digits) := signed cs
    if digits.length = cs.length then none
    else
      let (h, rest) ← fixedNumber 2 digits
      let (_, rest) ← literal ':' rest
      let (m, rest) ← fixedNumber 2 rest
      if h ≤ 23 && m ≤ 59 && rest.isEmpty then
        pure (if negative then -((60 * h + m : Nat) : Int) else (60 * h + m : Nat))
      else none

/-- The time of day after a date, with an offset or without. -/
def momentOfClock? (date : Date) (cs : List Char) : Option Moment := do
  let (clock, rest) ← fullClock cs
  if rest.isEmpty then pure ⟨some date, some clock, none⟩
  else (offset? rest).map fun offset => ⟨some date, some clock, some offset⟩

/-- **A moment** in one word. -/
def moment? (cs : List Char) : Option Moment :=
  match fullDate cs with
  | some (date, []) => some ⟨some date, none, none⟩
  | some (date, c :: rest) => if c = 'T' || c = 't' then momentOfClock? date rest else none
  | none =>
    match fullClock cs with
    | some (clock, []) => some ⟨none, some clock, none⟩
    | _ => none

/-- The value that a word denotes. -/
def word? (cs : List Char) : Option Value :=
  boolean? cs <|> (moment? cs).map .moment <|> integer? cs <|> decimal? cs <|> wordFloat? cs

/-- The time of day in the word after a blank, if the word before it is a date. -/
def laterClock? (date : Moment) : List Char → Option (Moment × List Char)
  | ' ' :: cs =>
    match date with
    | ⟨some d, none, none⟩ =>
      (momentOfClock? d (cs.takeWhile isWordChar)).map fun m => (m, cs.dropWhile isWordChar)
    | _ => none
  | _ => none

/-- **A value without quotes and brackets.** -/
def scalar : Reader Value := fun cs => do
  let value ← word? (cs.takeWhile isWordChar)
  let rest := cs.dropWhile isWordChar
  match value with
  | .moment m =>
    match laterClock? m rest with
    | some (m, rest) => pure (.moment m, rest)
    | none => pure (.moment m, rest)
  | _ => pure (value, rest)

end Readership.Toml

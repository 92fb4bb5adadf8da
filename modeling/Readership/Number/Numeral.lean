/-!
# Numerals

Whole numbers in decimal digits: how they are written, with or without
leading zeros, and how they are read. Only the ten digits of ASCII are read.
-/

namespace Readership.Numeral

/-- The value of a decimal digit. -/
def digitValue (c : Char) : Nat :=
  c.toNat - '0'.toNat

/-- The number that digits spell, continuing a number read so far. -/
def valueFrom (start : Nat) (digits : List Char) : Nat :=
  digits.foldl (fun n c => 10 * n + digitValue c) start

/-- The number that digits spell. -/
def value (digits : List Char) : Nat :=
  valueFrom 0 digits

/-- **Digits of a number**, the first one not zero unless it is the only one. -/
def digits (n : Nat) : List Char :=
  Nat.toDigits 10 n

/-- A number in digits. -/
def ofNat (n : Nat) : String :=
  String.ofList (digits n)

/-- A number in digits, with a minus sign if it is negative. -/
def ofInt : Int → String
  | .ofNat n => ofNat n
  | .negSucc n => "-" ++ ofNat (n + 1)

/-- The digits of a number, filled up on the left with zeros. -/
def padded (width n : Nat) : List Char :=
  List.replicate (width - (digits n).length) '0' ++ digits n

/-- The value of a hexadecimal digit. -/
def hexValue? (c : Char) : Option Nat :=
  if '0' ≤ c && c ≤ '9' then some (c.toNat - '0'.toNat)
  else if 'a' ≤ c && c ≤ 'f' then some (c.toNat - 'a'.toNat + 10)
  else if 'A' ≤ c && c ≤ 'F' then some (c.toNat - 'A'.toNat + 10)
  else none

/-- The number that hexadecimal digits spell. -/
def hexNumber? (cs : List Char) : Option Nat := do
  let values ← cs.mapM hexValue?
  pure (values.foldl (fun n d => 16 * n + d) 0)

/-- The number that a text of digits, at least one, spells. -/
def nat? (cs : List Char) : Option Nat :=
  if !cs.isEmpty && cs.all Char.isDigit then some (value cs) else none

/-- A number with an optional plus sign. -/
def signless? : List Char → Option Nat
  | '+' :: cs => nat? cs
  | cs => nat? cs

/-- A number with an optional sign. -/
def int? : List Char → Option Int
  | '-' :: cs => (nat? cs).map fun n => -(n : Int)
  | cs => (signless? cs).map fun n => (n : Int)

/-- The integers of a signed word of 64 bits. -/
def fitsSigned (n : Int) : Bool :=
  -9223372036854775808 ≤ n && n ≤ 9223372036854775807

/-- The naturals of an unsigned word of 64 bits. -/
def fitsUnsigned (n : Int) : Bool :=
  0 ≤ n && n ≤ 18446744073709551615

@[simp] theorem valueFrom_nil (start : Nat) : valueFrom start [] = start := rfl

@[simp] theorem valueFrom_cons (start : Nat) (c : Char) (cs : List Char) :
    valueFrom start (c :: cs) = valueFrom (10 * start + digitValue c) cs := by
  simp only [valueFrom, List.foldl_cons]

end Readership.Numeral

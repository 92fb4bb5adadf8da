/-!
# Base 64

Credentials travel in a header as base 64: every three bytes become four
letters, and the last group is filled up with `=`.
-/

namespace Readership.Text

/-- The sixty-four letters, by value. -/
def base64Letters : List Char :=
  "ABCDEFGHIJKLMNOPQRSTUVWXYZabcdefghijklmnopqrstuvwxyz0123456789+/".toList

/-- The letter for the low six bits of a number. -/
def base64Letter (n : Nat) : Char :=
  (base64Letters[n % 64]?).getD '='

/-- Bytes in base 64. -/
def base64Bytes : List UInt8 → List Char
  | [] => []
  | [a] =>
    let n := a.toNat * 65536
    [base64Letter (n / 262144), base64Letter (n / 4096), '=', '=']
  | [a, b] =>
    let n := a.toNat * 65536 + b.toNat * 256
    [base64Letter (n / 262144), base64Letter (n / 4096), base64Letter (n / 64), '=']
  | a :: b :: c :: rest =>
    let n := a.toNat * 65536 + b.toNat * 256 + c.toNat
    base64Letter (n / 262144) :: base64Letter (n / 4096) :: base64Letter (n / 64)
      :: base64Letter n :: base64Bytes rest

/-- The UTF-8 bytes of a text in base 64. -/
def base64 (s : String) : String :=
  String.ofList (base64Bytes s.toUTF8.toList)

end Readership.Text

import Readership.Text.Unseen

/-!
# Strings as diagnostics show them

A diagnostic puts a string between double quotes. Quotes and backslashes get a
backslash, the common controls their letter, and whatever could not be seen is
spelled `\u{…}` with its number in hexadecimal.
-/

namespace Readership.Text

/-- A character between the quotes of a diagnostic. -/
def diagnosticChar (c : Char) : List Char :=
  if c = '\t' then ['\\', 't']
  else if c = '\r' then ['\\', 'r']
  else if c = '\n' then ['\\', 'n']
  else if c.toNat = 0 then ['\\', '0']
  else if c = '"' || c = '\\' then ['\\', c]
  else if isUnseen c then
    ['\\', 'u', '\x7b'] ++ Nat.toDigits 16 c.toNat ++ ['\x7d']
  else [c]

/-- **A quoted string**, as a diagnostic shows it. -/
def diagnostic (s : String) : String :=
  String.ofList ('"' :: s.toList.flatMap diagnosticChar ++ ['"'])

end Readership.Text

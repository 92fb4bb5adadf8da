import Readership.Number.Numeral
import Readership.Text.Search

/-!
# Addresses in numbers

A host may be given by its number. The older form has up to four numbers with
dots between them, each in base 8, 10 or 16; the last one fills whatever bytes
the others leave. The newer form has eight pieces with colons between them, of
which one row of zeros may be left out, and the last two pieces may be written
in the older form.
-/

namespace Readership.Url

/-- A number in base 16 after `0x`, in base 8 after `0`, otherwise in base 10. -/
def addressNumber? : List Char → Option Nat
  | '0' :: 'x' :: cs => Numeral.hexNumber? cs
  | '0' :: 'X' :: cs => Numeral.hexNumber? cs
  | '0' :: c :: cs =>
    if (c :: cs).all fun d => '0' ≤ d && d ≤ '7' then
      some ((c :: cs).foldl (fun n d => 8 * n + Numeral.digitValue d) 0)
    else none
  | cs => Numeral.nat? cs

/-- The parts of a name without the empty one after a last dot. -/
def withoutLastDot (labels : List (List Char)) : List (List Char) :=
  if labels.getLast? = some [] then labels.dropLast else labels

/-- **Whether a name means an address.** Its last part decides. -/
def meansAddress (labels : List (List Char)) : Bool :=
  match (withoutLastDot labels).getLast? with
  | none => false
  | some last => (!last.isEmpty && last.all Char.isDigit) || (addressNumber? last).isSome

/-- One number from the bytes before the last number and the last number. -/
def joinBytes : List Nat → Nat → Option Nat
  | [], n => if n < 4294967296 then some n else none
  | [a], n => if a < 256 && n < 16777216 then some (a * 16777216 + n) else none
  | [a, b], n =>
    if a < 256 && b < 256 && n < 65536 then some (a * 16777216 + b * 65536 + n) else none
  | [a, b, c], n =>
    if a < 256 && b < 256 && c < 256 && n < 256 then
      some (a * 16777216 + b * 65536 + c * 256 + n)
    else none
  | _, _ => none

/-- **The number of an address** in the older form. -/
def ipv4? (labels : List (List Char)) : Option Nat := do
  let numbers ← (withoutLastDot labels).mapM addressNumber?
  let last ← numbers.getLast?
  joinBytes numbers.dropLast last

/-- A piece: one to four digits of base 16. -/
def piece? (cs : List Char) : Option Nat :=
  if !cs.isEmpty && cs.length ≤ 4 then Numeral.hexNumber? cs else none

/-- A byte in base 10 without leading zeros. -/
def byte? (cs : List Char) : Option Nat := do
  let n ← Numeral.nat? cs
  if n ≤ 255 && cs = Numeral.digits n then some n else none

/-- Two pieces written as four bytes. -/
def quad? (cs : List Char) : Option (List Nat) := do
  match ← (Text.splitAt '.' cs).mapM byte? with
  | [a, b, c, d] => some [256 * a + b, 256 * c + d]
  | _ => none

/-- Pieces, of which the last two may be four bytes. -/
def pieces? : List (List Char) → Option (List Nat)
  | [] => some []
  | [last] => (piece? last).map (fun n => [n]) <|> quad? last
  | cs :: rest => do
    let n ← piece? cs
    let ns ← pieces? rest
    pure (n :: ns)

/-- What stands between colons; an empty text has no pieces. -/
def betweenColons (cs : List Char) : List (List Char) :=
  if cs.isEmpty then [] else Text.splitAt ':' cs

/-- **The eight pieces of an address** in the newer form. Two colons stand for at
least one piece of zero. -/
def ipv6? (cs : List Char) : Option (List Nat) :=
  match Text.before? "::".toList cs with
  | none => do
    let ns ← pieces? (betweenColons cs)
    if ns.length = 8 then some ns else none
  | some left => do
    let before ← (betweenColons left).mapM piece?
    let after ← pieces? (betweenColons (cs.drop (left.length + 2)))
    let written := before.length + after.length
    if written ≤ 7 then some (before ++ List.replicate (8 - written) 0 ++ after) else none

/-- An address of the older form is a number of four bytes. -/
theorem joinBytes_lt {bytes : List Nat} {last n : Nat} (h : joinBytes bytes last = some n) :
    n < 4294967296 := by
  unfold joinBytes at h
  split at h <;> simp at h <;> omega

/-- An address of the newer form has eight pieces. -/
theorem length_ipv6? {cs : List Char} {ns : List Nat} (h : ipv6? cs = some ns) :
    ns.length = 8 := by
  unfold ipv6? at h
  split at h
  · cases hp : pieces? (betweenColons cs) with
    | none => simp [hp] at h
    | some ms =>
      simp only [hp, Option.bind_eq_bind, Option.bind_some] at h
      split at h
      · rename_i hl
        rw [← Option.some.inj h]
        exact hl
      · exact absurd h (by simp)
  · rename_i left _
    cases hb : (betweenColons left).mapM piece? with
    | none => simp [hb] at h
    | some before =>
      cases ha : pieces? (betweenColons (cs.drop (left.length + 2))) with
      | none => simp [hb, ha] at h
      | some after =>
        simp only [hb, ha, Option.bind_eq_bind, Option.bind_some] at h
        split at h
        · rw [← Option.some.inj h]
          simp
          omega
        · exact absurd h (by simp)

end Readership.Url

import Readership.Calendar.Instant
import Readership.Json.Basic

/-!
# Field values

A field of a view holds an integer, a text or an instant, or nothing. Two
comparisons: `FieldValue.compare?` relates values of one kind and leaves null
and mixed kinds apart, as a filter does; `FieldValue.compare` is the total
order of groups, in which kinds follow one another and null comes last.
-/

namespace Readership

/-- **The value of a field** of one view. -/
inductive FieldValue where
  | null
  | int (n : Int)
  | text (s : String)
  | instant (t : Instant)
deriving DecidableEq

namespace FieldValue

/-- Whether there is no value. -/
def isNull : FieldValue → Bool
  | null => true
  | _ => false

/-- A text, or null where there is none. -/
def ofText? : Option String → FieldValue
  | some s => text s
  | none => null

/-- **Relational comparison**, of values of one kind only. Texts are compared
character by character. -/
def compare? : FieldValue → FieldValue → Option Ordering
  | int a, int b => some (Ord.compare a b)
  | text a, text b => some (Ord.compare a b)
  | instant a, instant b => some (a.compare b)
  | _, _ => none

/-- The position of a kind among kinds; null comes last. -/
def rank : FieldValue → Nat
  | int _ => 0
  | text _ => 1
  | instant _ => 2
  | null => 3

/-- **The order of groups.** -/
def compare (a b : FieldValue) : Ordering :=
  match compare? a b with
  | some o => o
  | none => Ord.compare a.rank b.rank

instance : Ord FieldValue := ⟨FieldValue.compare⟩

/-- The text that substrings are searched in and that labels show; an instant
shows its date and time to the second. -/
def text? : FieldValue → Option String
  | null => none
  | int n => some (Numeral.ofInt n)
  | text s => some s
  | instant t => some t.plainText

/-- The text of a value, also of one that is not there. -/
def display (v : FieldValue) : String :=
  v.text?.getD "null"

/-- **A value as JSON.** An instant is written with its offset. -/
def toJson : FieldValue → Json
  | null => .null
  | int n => .ofInt n
  | text s => .str s
  | instant t => .str t.offsetText

@[simp] theorem isNull_null : null.isNull = true := rfl

@[simp] theorem isNull_int (n : Int) : (int n).isNull = false := rfl

@[simp] theorem isNull_text (s : String) : (text s).isNull = false := rfl

@[simp] theorem isNull_instant (t : Instant) : (instant t).isNull = false := rfl

/-- Only null is null. -/
theorem isNull_iff {v : FieldValue} : v.isNull = true ↔ v = null := by
  cases v <;> simp

theorem isNull_eq_false {v : FieldValue} (h : v ≠ null) : v.isNull = false := by
  cases v <;> first | rfl | exact absurd rfl h

end FieldValue

end Readership

import Readership.Proofs.Sql.Expression

/-!
# Functions of a server

The functions that expressions of selections call, as a server has them: instants
are read by the casual grammar, and a text is searched for in small letters from
the front, the place of the first occurrence counted from one.
-/

namespace Readership.Sql

/-- The place of the first occurrence, from one; zero where there is none. -/
def placeOf (needle : List Char) : List Char → Nat
  | [] => if needle.isEmpty then 1 else 0
  | c :: rest =>
    if needle.isPrefixOf (c :: rest) then 1
    else match placeOf needle rest with
      | 0 => 0
      | n + 1 => n + 2

/-- **There is a place where there is an occurrence.** -/
theorem placeOf_pos_iff (needle cs : List Char) :
    0 < placeOf needle cs ↔ Text.occursIn needle cs = true := by
  induction cs with
  | nil =>
    rw [placeOf, Text.occursIn]
    split <;> simp_all
  | cons c rest ih =>
    rw [placeOf, Text.occursIn, Bool.or_eq_true, ← ih]
    by_cases hstart : needle.isPrefixOf (c :: rest) = true
    · simp [hstart]
    · rw [if_neg hstart]
      cases placeOf needle rest <;> simp [hstart]

/-- **The functions** that expressions of selections call. -/
def standardFunctions (name : String) (values : List FieldValue) : Option FieldValue :=
  match name, values with
  | "toDateTime", [.text s, .text _] =>
    (Calendar.casualInstant Calendar.blanks Calendar.casualClock s.toList).map .instant
  | "toDateTime64", [.text s, .int _, .text _] =>
    (Calendar.casualInstant Calendar.blanks Calendar.casualClock s.toList).map .instant
  | "toString", [v] => v.text?.map .text
  | "positionCaseInsensitiveUTF8", [.text s, .text needle] =>
    some (.int (placeOf needle.toList (Text.lower s.toList)))
  | _, _ => none

/-- The functions keep what is promised of them. -/
theorem documented_standardFunctions : Documented standardFunctions where
  toDateTime t ht hnano := by
    show (Calendar.casualInstant _ _ t.plainText.toList).map _ = _
    rw [Calendar.casualInstant_plainText ht hnano, Option.map_some]
  toDateTime64 t ht := by
    show (Calendar.casualInstant _ _ t.fullText.toList).map _ = _
    rw [Calendar.casualInstant_fullText ht, Option.map_some]
  position v s hv := by
    obtain ⟨shown, hshown⟩ : ∃ shown, v.text? = some shown := by
      cases v <;> first | exact absurd rfl hv | exact ⟨_, rfl⟩
    refine ⟨shown, placeOf (Text.lowercase s).toList (Text.lower shown.toList), ?_, rfl, ?_⟩
    · show v.text?.map _ = _
      rw [hshown, Option.map_some]
    · rw [Int.natCast_pos, placeOf_pos_iff, Test.holds, hshown]

end Readership.Sql

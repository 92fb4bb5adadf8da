import Readership.Proofs.Calendar.Timestamp
import Readership.Proofs.View.Conformance
import Readership.Server.Rows

/-!
# Cells that write values

A server has some freedom in how it writes a value into a cell: an integer or a count is a
number or the digits of one, since not every reader of JSON keeps 64-bit integers exact,
and a timestamp follows either custom. The relations here say which cells write which
values (`FieldValue.Cell`, `Answer.CountCell`, `Answer.BucketCell`). They do not mention
the readers of cells, and each reader gives back whatever value a cell writes, as long as
a number fits its word. Years have four digits wherever a date is written.
-/

namespace Readership

namespace Numeral

/-- **Digits that spell a number**, with zeros in front of it or not. -/
structure Spells (n : Nat) (cs : List Char) : Prop where
  ne_nil : cs ≠ []
  digits : ∀ c ∈ cs, c.isDigit = true
  value : value cs = n

/-- **A text that spells an integer**: digits, or a minus sign and digits. -/
inductive SpellsInt : Int → List Char → Prop where
  | plain {n : Nat} {cs : List Char} : Spells n cs → SpellsInt n cs
  | negative {n : Nat} {cs : List Char} : Spells n cs → SpellsInt (-n) ('-' :: cs)

variable {n : Nat} {cs : List Char}

theorem Spells.nat?_eq (h : Spells n cs) : nat? cs = some n := by
  have hall : cs.all Char.isDigit = true := List.all_eq_true.mpr h.digits
  simp [nat?, h.ne_nil, hall, h.value]

/-- Digits have no sign in front of them. -/
theorem Spells.exists_cons (h : Spells n cs) : ∃ c rest, cs = c :: rest ∧ c ≠ '+' ∧ c ≠ '-' := by
  obtain ⟨c, rest, rfl⟩ := List.exists_cons_of_ne_nil h.ne_nil
  have hdigit : c.isDigit = true := h.digits c List.mem_cons_self
  refine ⟨c, rest, rfl, ?_, ?_⟩ <;> rintro rfl <;> exact absurd hdigit (by decide)

theorem Spells.signless?_eq (h : Spells n cs) : signless? cs = some n := by
  obtain ⟨c, rest, hcs, hplus, -⟩ := h.exists_cons
  rw [← h.nat?_eq, hcs, signless?]
  simpa using hplus

/-- **What spells an integer is read as it.** -/
theorem SpellsInt.int?_eq {k : Int} (h : SpellsInt k cs) : int? cs = some k := by
  cases h with
  | plain h =>
    obtain ⟨c, rest, hcs, -, hminus⟩ := h.exists_cons
    have hread := h.signless?_eq
    rw [hcs] at hread ⊢
    rw [int?, hread]
    · rfl
    · simpa using hminus
  | negative h =>
    rw [int?, h.nat?_eq]
    rfl

/-- What spells an integer has no white space in it. -/
theorem SpellsInt.trim_eq {k : Int} (h : SpellsInt k cs) : Text.trim cs = cs := by
  have hdigits {n : Nat} {ds : List Char} (hds : Spells n ds) : ∀ c ∈ ds, Text.isBlank c = false :=
    fun c hc => Calendar.isBlank_of_isDigit (hds.digits c hc)
  have hink : cs ≠ [] ∧ ∀ c ∈ cs, Text.isBlank c = false := by
    cases h with
    | plain h => exact ⟨h.ne_nil, hdigits h⟩
    | negative h =>
      exact ⟨List.cons_ne_nil _ _, List.forall_mem_cons.mpr ⟨by decide, hdigits h⟩⟩
  obtain ⟨c, rest, rfl⟩ := List.exists_cons_of_ne_nil hink.1
  have hstart : Text.StartsWithout Text.isBlank ([] ++ c :: rest) := hink.2 c List.mem_cons_self
  exact Text.trim_append_of_ink hstart hink.1 hink.2

end Numeral

open Calendar (HasFourDigits WithOffset Plain)
open Numeral (Spells SpellsInt)

/-- **A cell that writes the value of a field.** -/
inductive FieldValue.Cell : FieldValue → Json → Prop where
  | null : Cell .null .null
  | text (s : String) : Cell (.text s) (.str s)
  | number (n : Int) : Cell (.int n) (.ofInt n)
  | digits {n : Int} {s : String} : SpellsInt n s.toList → Cell (.int n) (.str s)
  | withOffset {t : Instant} {s : String} : WithOffset t s.toList → Cell (.instant t) (.str s)
  | plain {t : Instant} {s : String} : Plain t s.toList → Cell (.instant t) (.str s)

/-- **A key that a field may have in a row**: null or of its kind, an integer within a word
and an instant that a text can spell. -/
structure Field.Typed (f : Field) (v : FieldValue) : Prop where
  admits : f.Admits v
  fits : ∀ {n : Int}, v = .int n → Numeral.fitsSigned n = true

/-- A value of a typed key is of the kind of the field. -/
theorem Field.Typed.kind_eq {f : Field} {v : FieldValue} {k : FieldKind} (h : f.Typed v)
    (hv : v.kind? = some k) : f.kind = k := by
  rcases h.admits.kind with rfl | hkind
  · cases hv
  · exact Option.some.inj (hkind.symm.trans hv)

/-- **A key is read back** from any cell that writes it. -/
theorem Field.coerce_of_cell {f : Field} {v : FieldValue} {cell : Json} (hv : f.Typed v)
    (h : v.Cell cell) : f.coerce cell = .ok v := by
  cases h with
  | null => exact coerce_null f
  | text s =>
    have hkind : f.kind = .text := hv.kind_eq rfl
    simp [coerce, hkind, scalarText?]
  | number n =>
    have hkind : f.kind = .integer := hv.kind_eq rfl
    simp [coerce, hkind, integerLiteral?, Json.ofInt, Json.Number.signed?, hv.fits rfl]
  | @digits n s hspells =>
    have hkind : f.kind = .integer := hv.kind_eq rfl
    have hread : integerOfText? s = some n := by
      rw [integerOfText?, hspells.trim_eq, hspells.int?_eq]
      simp [hv.fits rfl]
    simp [coerce, hkind, integerLiteral?, hread]
  | @withOffset t s hwritten =>
    have hkind : f.kind = .timestamp := hv.kind_eq rfl
    have hread := Calendar.instant?_of_withOffset hwritten (hv.admits.proper rfl)
    simp [coerce, hkind, instantLiteral?, hread]
  | @plain t s hwritten =>
    have hkind : f.kind = .timestamp := hv.kind_eq rfl
    have hread := Calendar.instant?_of_plain hwritten (hv.admits.proper rfl)
    simp [coerce, hkind, instantLiteral?, hread]

namespace Answer

/-- **A cell that writes a count.** -/
inductive CountCell : Nat → Json → Prop where
  | number (n : Nat) : CountCell n (.ofNat n)
  | digits {n : Nat} {s : String} : Spells n s.toList → CountCell n (.str s)

/-- **A cell that writes the first day of a bucket**, or that there is none. -/
inductive BucketCell : Option Date → Json → Prop where
  | null : BucketCell none .null
  | date {d : Date} : HasFourDigits d.year → BucketCell (some d) (.str (String.ofList d.chars))

/-- **A count is read back**, up to the greatest of 64 bits. -/
theorem countOfCell_of_cell {n : Nat} {cell : Json} (hn : n < 2 ^ 64) (h : CountCell n cell) :
    countOfCell cell = .ok n := by
  have hfits : Numeral.fitsUnsigned n = true := by
    simp only [Numeral.fitsUnsigned, Bool.and_eq_true, decide_eq_true_eq]
    omega
  cases h with
  | number => simp [countOfCell, count?, Json.ofNat, Json.Number.unsigned?, hfits]
  | digits h => simp [countOfCell, count?, countOfText?, h.signless?_eq, hfits]

/-- **A bucket is read back** from its date. -/
theorem bucketOfCell_of_cell {bucket : Option Date} {cell : Json} (h : BucketCell bucket cell) :
    bucketOfCell cell = .ok bucket := by
  cases h with
  | null => rfl
  | @date d hyear =>
    have hread : Calendar.casualDate (d.chars ++ []) = some (d, []) :=
      Calendar.casualDate_chars (Calendar.inRange_of_hasFourDigits hyear) []
    have hdate : Calendar.exactDate? (String.ofList d.chars) = some d := by
      rw [Calendar.exactDate?, String.toList_ofList, ← List.append_nil d.chars, hread]
      rfl
    rw [bucketOfCell, hdate]

end Answer

end Readership

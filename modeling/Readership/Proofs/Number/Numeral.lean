import Mathlib.Algebra.Group.Nat.Defs
import Readership.Number.Numeral

/-!
# Numerals read back

The digits of a number spell the number, with or without zeros in front of
them, and nothing but digits is among them. How many there are is settled by
the size of the number, so a number that fits a width fills it exactly
(`Numeral.length_padded`).
-/

namespace Readership.Numeral

/-- Reading digits is what the core library calls so. -/
theorem valueFrom_eq_ofDigitChars (start : Nat) (cs : List Char) :
    valueFrom start cs = Nat.ofDigitChars 10 cs start := by
  rw [valueFrom, Nat.ofDigitChars_eq_foldl]
  rfl

/-- **The digits of a number spell it.** -/
@[simp] theorem value_digits (n : Nat) : value (digits n) = n := by
  rw [value, valueFrom_eq_ofDigitChars, digits, Nat.ofDigitChars_ten_toDigits]

/-- **Zeros in front change nothing.** -/
@[simp] theorem value_padded (width n : Nat) : value (padded width n) = n := by
  rw [value, valueFrom_eq_ofDigitChars, padded, Nat.ofDigitChars_append,
    Nat.ofDigitChars_replicate_zero, Nat.mul_zero, digits, Nat.ofDigitChars_ten_toDigits]

theorem isDigit_of_mem_digits {n : Nat} {c : Char} (h : c ∈ digits n) : c.isDigit = true :=
  Nat.isDigit_of_mem_toDigits (by decide) (by decide) h

theorem isDigit_of_mem_padded {width n : Nat} {c : Char} (h : c ∈ padded width n) :
    c.isDigit = true := by
  rcases List.mem_append.mp h with hzero | hdigit
  · rw [List.eq_of_mem_replicate hzero]
    rfl
  · exact isDigit_of_mem_digits hdigit

theorem digitValue_le {c : Char} (h : c.isDigit = true) : digitValue c ≤ 9 := by
  have hval : c.toNat ≤ '9'.toNat := by
    rw [Char.isDigit, Bool.and_eq_true, decide_eq_true_eq, decide_eq_true_eq] at h
    exact h.2
  have hnine : '9'.toNat = 57 := rfl
  have hzero : '0'.toNat = 48 := rfl
  rw [digitValue]
  omega

theorem valueFrom_lt {start : Nat} {cs : List Char} (h : ∀ c ∈ cs, c.isDigit = true) :
    valueFrom start cs < (start + 1) * 10 ^ cs.length := by
  induction cs generalizing start with
  | nil => simp
  | cons c cs ih =>
    obtain ⟨hc, hcs⟩ := List.forall_mem_cons.mp h
    have hd := digitValue_le hc
    rw [valueFrom_cons, List.length_cons, Nat.pow_succ']
    calc valueFrom (10 * start + digitValue c) cs
        < (10 * start + digitValue c + 1) * 10 ^ cs.length := ih hcs
      _ ≤ ((start + 1) * 10) * 10 ^ cs.length := Nat.mul_le_mul_right _ (by omega)
      _ = (start + 1) * (10 * 10 ^ cs.length) := Nat.mul_assoc _ _ _

/-- **As many digits as there are bound the number.** -/
theorem value_lt {cs : List Char} (h : ∀ c ∈ cs, c.isDigit = true) :
    value cs < 10 ^ cs.length := by
  have hlt := @valueFrom_lt 0 cs h
  rwa [Nat.zero_add, Nat.one_mul] at hlt

theorem digits_ne_nil (n : Nat) : digits n ≠ [] := Nat.toDigits_ne_nil

theorem padded_ne_nil (width n : Nat) : padded width n ≠ [] :=
  List.append_ne_nil_of_right_ne_nil _ (digits_ne_nil n)

/-- **A number that fits a width fills it exactly.** -/
theorem length_padded {width n : Nat} (hw : 0 < width) (h : n < 10 ^ width) :
    (padded width n).length = width := by
  have hle : (digits n).length ≤ width := (Nat.length_toDigits_le_iff (by decide) hw).mpr h
  rw [padded, List.length_append, List.length_replicate]
  omega

end Readership.Numeral

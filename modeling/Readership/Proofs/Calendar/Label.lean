import Readership.Calendar.Bucket
import Readership.Proofs.Calendar.Week
import Readership.Proofs.Calendar.Written

/-!
# Labels tell dates apart

A label is read from its front: the year first, which ends where its digits end, since a
sign is followed by a dash; then numbers of two digits each. So a label gives back the
numbers that went into it, whatever the width of its year and whether or not the year has
a sign. The year of a week is written without zeros and without a plus sign, which makes
it no less readable (`Numeral.ofInt_append_inj`).

What comes out differs between the labels: a whole date, a month, a year, or a week with
the year that it belongs to.
-/

namespace Readership

open Text (StartsWithout takeWhile_append_of_startsWithout dropWhile_append_of_startsWithout)

namespace Numeral

variable {rest more : List Char}

/-- **Digits end where something else begins.** -/
theorem digits_append_inj {m n : Nat} (hrest : StartsWithout Char.isDigit rest)
    (hmore : StartsWithout Char.isDigit more) (h : digits m ++ rest = digits n ++ more) :
    m = n ∧ rest = more := by
  have hdigits {k : Nat} : ∀ c ∈ digits k, c.isDigit = true := fun _ => isDigit_of_mem_digits
  have hfront := congrArg (List.takeWhile Char.isDigit) h
  have hback := congrArg (List.dropWhile Char.isDigit) h
  rw [takeWhile_append_of_startsWithout hdigits hrest,
    takeWhile_append_of_startsWithout hdigits hmore] at hfront
  rw [dropWhile_append_of_startsWithout hdigits hrest,
    dropWhile_append_of_startsWithout hdigits hmore] at hback
  exact ⟨by rw [← value_digits m, hfront, value_digits], hback⟩

/-- Digits have no sign in front. -/
theorem digits_append_ne_minus (n : Nat) (rest more : List Char) :
    digits n ++ rest ≠ '-' :: more := by
  obtain ⟨c, cs, hcs⟩ := List.exists_cons_of_ne_nil (digits_ne_nil n)
  have hc : c.isDigit = true := isDigit_of_mem_digits (hcs ▸ List.mem_cons_self)
  rw [hcs]
  intro h
  cases h
  exact absurd hc (by decide)

/-- **A number with its sign** ends where something else than a digit begins. -/
theorem ofInt_append_inj {m n : Int} (hrest : StartsWithout Char.isDigit rest)
    (hmore : StartsWithout Char.isDigit more)
    (h : (ofInt m).toList ++ rest = (ofInt n).toList ++ more) : m = n ∧ rest = more := by
  have hpos (k : Nat) : (ofInt (.ofNat k)).toList = digits k := String.toList_ofList
  have hneg (k : Nat) : (ofInt (.negSucc k)).toList = '-' :: digits (k + 1) := by
    simp [ofInt, ofNat]
  cases m with
  | ofNat m =>
    cases n with
    | ofNat n =>
      rw [hpos, hpos] at h
      exact (digits_append_inj hrest hmore h).imp_left (congrArg Int.ofNat)
    | negSucc n =>
      rw [hpos, hneg] at h
      exact absurd h (digits_append_ne_minus m _ _)
  | negSucc m =>
    cases n with
    | ofNat n =>
      rw [hpos, hneg] at h
      exact absurd h.symm (digits_append_ne_minus n _ _)
    | negSucc n =>
      rw [hneg, hneg, List.cons_append, List.cons_append, List.cons.injEq] at h
      obtain ⟨hnumber, hend⟩ := digits_append_inj hrest hmore h.2
      exact ⟨congrArg Int.negSucc (Nat.succ.inj hnumber), hend⟩

/-- **Two digits** can be told apart from what follows them. -/
theorem padded_append_inj {m n : Nat} (hm : m < 100) (hn : n < 100)
    (h : padded 2 m ++ rest = padded 2 n ++ more) : m = n ∧ rest = more := by
  have hread := Calendar.shortNumber_padded hm rest
  rw [h, Calendar.shortNumber_padded hn more, Option.some.injEq, Prod.mk.injEq] at hread
  exact ⟨hread.1.symm, hread.2.symm⟩

end Numeral

namespace Date

variable {d e : Date} {rest more : List Char}

/-- **A year ends where its digits end.** -/
theorem yearText_append_inj {y z : Int} (hrest : StartsWithout Char.isDigit rest)
    (hmore : StartsWithout Char.isDigit more) (h : yearText y ++ rest = yearText z ++ more) :
    y = z ∧ rest = more := by
  have hread := Calendar.year_yearText y hrest
  rw [h, Calendar.year_yearText z hmore, Option.some.injEq, Prod.mk.injEq] at hread
  exact ⟨hread.1.symm, hread.2.symm⟩

theorem yearText_inj {y z : Int} (h : yearText y = yearText z) : y = z := by
  have hnothing := Text.startsWithout_nil Char.isDigit
  exact (yearText_append_inj hnothing hnothing (by rw [h])).1

/-- **A month is told by its year and its number.** -/
theorem monthText_append_inj (h : d.monthText ++ rest = e.monthText ++ more) :
    d.year = e.year ∧ d.month = e.month ∧ rest = more := by
  rw [monthText, monthText, List.append_assoc, List.append_assoc] at h
  obtain ⟨hyear, hback⟩ := yearText_append_inj (by exact rfl) (by exact rfl) h
  obtain ⟨hmonth, hend⟩ := Numeral.padded_append_inj d.month_lt e.month_lt (List.cons.inj hback).2
  exact ⟨hyear, hmonth, hend⟩

theorem monthText_inj (h : d.monthText = e.monthText) : d.year = e.year ∧ d.month = e.month := by
  obtain ⟨hyear, hmonth, -⟩ := monthText_append_inj (show d.monthText ++ [] = e.monthText ++ [] by
    rw [h])
  exact ⟨hyear, hmonth⟩

/-- **A date is told by its text.** -/
theorem chars_inj (h : d.chars = e.chars) : d = e := by
  rw [chars, chars] at h
  obtain ⟨hyear, hmonth, hback⟩ := monthText_append_inj h
  have hday : Numeral.padded 2 d.day ++ [] = Numeral.padded 2 e.day ++ [] := by
    rw [(List.cons.inj hback).2]
  exact eq_of_parts hyear hmonth (Numeral.padded_append_inj d.day_lt e.day_lt hday).1

end Date

/-- **A week is told by its year and its number.** -/
theorem Bucket.isoWeek_eq_of_labelChars_eq {d e : Date}
    (h : week.labelChars d = week.labelChars e) : d.isoWeek = e.isoWeek := by
  obtain ⟨hyear, hback⟩ := Numeral.ofInt_append_inj (by exact rfl) (by exact rfl) h
  have hnumber : Numeral.padded 2 d.isoWeek.2 ++ [] = Numeral.padded 2 e.isoWeek.2 ++ [] := by
    rw [(List.cons.inj (List.cons.inj hback).2).2]
  have hd := d.isoWeek_le
  have he := e.isoWeek_le
  exact Prod.ext hyear (Numeral.padded_append_inj (by omega) (by omega) hnumber).1

end Readership

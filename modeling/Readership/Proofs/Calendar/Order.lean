import Mathlib.Order.Defs.LinearOrder
import Readership.Calendar.Instant

/-!
# The order of dates and instants

Dates and instants are compared part by part, so two of them rank equal only
if all their parts agree, and then they are the same; and since each part is
ordered in a line, so are they. What is smaller (`<`, `≤`) is what ranks before.
-/

namespace Readership

/-- A date is its three numbers. -/
theorem Date.eq_of_parts {a b : Date} (hyear : a.year = b.year) (hmonth : a.month = b.month)
    (hday : a.day = b.day) : a = b := by
  cases a
  cases b
  simp_all

/-- **Dates of equal rank are equal.** -/
theorem Date.compare_eq_iff {a b : Date} : a.compare b = .eq ↔ a = b := by
  rw [Date.compare, Ordering.then_eq_eq, Ordering.then_eq_eq]
  simp only [Std.compare_eq_iff_eq]
  constructor
  · rintro ⟨hyear, hmonth, hday⟩
    exact eq_of_parts hyear hmonth hday
  · rintro rfl
    exact ⟨rfl, rfl, rfl⟩

instance : Std.LawfulEqOrd Date where
  compare_self := Date.compare_eq_iff.mpr rfl
  eq_of_compare := Date.compare_eq_iff.mp

/-- **Dates stand in a line.** -/
instance : Std.TransOrd Date :=
  inferInstanceAs (Std.TransCmp (compareLex (compareOn Date.year)
    (compareLex (compareOn Date.month) (compareOn Date.day))))

theorem Date.compare_asymm {a b : Date} (h : a.compare b = .lt) : b.compare a ≠ .lt := by
  have hswap : Ord.compare b a = (Ord.compare a b).swap := Std.OrientedCmp.eq_swap
  change Ord.compare b a ≠ .lt
  rw [hswap, show Ord.compare a b = .lt from h]
  decide

instance : LE Date := leOfOrd

instance : LT Date := ltOfOrd

/-- **Instants of equal rank are equal.** -/
theorem Instant.compare_eq_iff {a b : Instant} : a.compare b = .eq ↔ a = b := by
  rw [Instant.compare, Ordering.then_eq_eq, Ordering.then_eq_eq, Date.compare_eq_iff]
  simp only [Std.compare_eq_iff_eq]
  constructor
  · rintro ⟨hdate, hsecond, hnano⟩
    cases a
    cases b
    simp_all
  · rintro rfl
    exact ⟨rfl, rfl, rfl⟩

instance : Std.LawfulEqOrd Instant where
  compare_self := Instant.compare_eq_iff.mpr rfl
  eq_of_compare := Instant.compare_eq_iff.mp

/-- **Instants stand in a line.** -/
instance : Std.TransOrd Instant :=
  inferInstanceAs (Std.TransCmp (compareLex (compareOn Instant.date)
    (compareLex (compareOn Instant.second) (compareOn Instant.nano))))

instance : LE Instant := leOfOrd

instance : LT Instant := ltOfOrd

/-- **The order of instants, part by part.** -/
theorem Instant.le_iff {t u : Instant} : t ≤ u ↔ t.date < u.date ∨
    t.date = u.date ∧ (t.second < u.second ∨ t.second = u.second ∧ t.nano ≤ u.nano) := by
  show (t.compare u).isLE = true ↔ _
  rw [Instant.compare, Ordering.isLE_then_iff_or, Ordering.isLE_then_iff_or,
    Date.compare_eq_iff, Nat.compare_eq_lt, Nat.compare_eq_eq, Nat.isLE_compare]
  rfl

/-- What does not rank before another is not smaller. -/
theorem Instant.compare_ne_lt_iff {t u : Instant} : t.compare u ≠ .lt ↔ u ≤ t := by
  show Ord.compare t u ≠ .lt ↔ (Ord.compare u t).isLE = true
  rw [← Ordering.ne_gt_iff_isLE, ne_eq, Std.OrientedCmp.gt_iff_lt]

theorem Instant.compare_ne_gt_iff {t u : Instant} : t.compare u ≠ .gt ↔ t ≤ u :=
  Ordering.ne_gt_iff_isLE

end Readership

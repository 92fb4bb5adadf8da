import Readership.Proofs.Calendar.Number

/-!
# Weeks and their numbers

Days are numbered one after the other, so a week is seven numbers in a row, and the
Monday of a week is found by going back (`Date.weekStart`).

A week belongs to the year that its Thursday lies in, and its number is that of its
Thursday among those of the year. `Date.isoWeek` starts from the year of a date, which may
be that year, the one before or the one after. Whichever it is, the Thursday lies in the
year that is given (`Date.thursdayLies_isoWeek`). Two Mondays with the same year and
number therefore have their Thursdays in the same seven days of the same year, so they are
one Monday (`Date.eq_of_isoWeek_eq`), also where the year is not that of the Monday.
-/

namespace Readership.Date

theorem weekday_eq (d : Date) : (d.weekday : Int) = (d.number + 2) % 7 :=
  Int.toNat_of_nonneg (Int.emod_nonneg _ (by decide))

theorem number_weekStart (d : Date) : d.weekStart.number = d.number - d.weekday :=
  number_back _ _

/-- **Weeks begin on Monday.** -/
theorem weekday_weekStart (d : Date) : d.weekStart.weekday = 0 := by
  have hday := d.weekday_eq
  have hstart := d.weekStart.weekday_eq
  rw [number_weekStart] at hstart
  omega

theorem weekStart_of_weekday_eq_zero {d : Date} (h : d.weekday = 0) : d.weekStart = d := by
  rw [weekStart, h, back_zero]

/-! ## The year and the number of a week -/

/-- The number of the Thursday of the week of a date. -/
def thursday (d : Date) : Int :=
  d.number - d.weekday + 3

/-- **The place of a Thursday**: it lies in a year, and there are `week - 1` whole weeks
of the year before it. -/
structure ThursdayLies (thursday year : Int) (week : Nat) : Prop where
  newYear_le : newYear year ≤ thursday
  lt_newYear : thursday < newYear year + daysInYear year
  week_eq : (week : Int) = (thursday - newYear year) / 7 + 1

/-- **The year and the number of a week** are those of its Thursday. The cases are that it
lies in the year before, in the year after, or in the year of the date. -/
theorem thursdayLies_isoWeek (d : Date) :
    ThursdayLies d.thursday d.isoWeek.1 d.isoWeek.2 := by
  have hlength (year : Int) : (if isLeapYear year then 366 else 365 : Int) = daysInYear year := by
    rw [daysInYear]
    split <;> rfl
  have hweekday := d.weekday_eq
  obtain ⟨hfrom, hto⟩ := d.number_mem_year
  have hposition : (d.dayOfYear : Int) + 3 - d.weekday = d.thursday - newYear d.year + 1 := by
    rw [dayOfYear, number_yearStart, thursday]
    omega
  have hnear : newYear d.year - 3 ≤ d.thursday ∧
      d.thursday < newYear d.year + daysInYear d.year + 3 := by
    rw [thursday]
    omega
  have hbefore := newYear_succ (d.year - 1)
  have hafter := newYear_succ d.year
  rw [Int.sub_add_cancel] at hbefore
  have hlast := daysInYear_bounds (d.year - 1)
  have hnext := daysInYear_bounds (d.year + 1)
  simp only [isoWeek, hlength, hposition]
  split
  next hearly => constructor <;> simp only <;> omega
  split
  next hlate => constructor <;> simp only <;> omega
  next => constructor <;> simp only <;> omega

/-- A year has at most fifty-three weeks. -/
theorem isoWeek_le (d : Date) : d.isoWeek.2 ≤ 53 := by
  obtain ⟨-, hlt, hweek⟩ := d.thursdayLies_isoWeek
  have hlength := daysInYear_bounds d.isoWeek.1
  omega

/-- **A week is known by its year and its number.** -/
theorem eq_of_isoWeek_eq {a b : Date} (ha : a.weekday = 0) (hb : b.weekday = 0)
    (h : a.isoWeek = b.isoWeek) : a = b := by
  have hweeka := a.thursdayLies_isoWeek.week_eq
  have hweekb := b.thursdayLies_isoWeek.week_eq
  have hmondaya := a.weekday_eq
  have hmondayb := b.weekday_eq
  rw [h, hweekb, thursday, thursday] at hweeka
  -- both Thursdays lie in the same seven days, and Mondays are whole weeks apart
  exact number_inj.mp (by omega)

/-- Two Mondays at the end of a year, of which one belongs to the next. -/
example : isoWeek ⟨2024, 12, 30, by decide, by decide, by decide, by decide⟩ = (2025, 1) ∧
    isoWeek ⟨2020, 12, 28, by decide, by decide, by decide, by decide⟩ = (2020, 53) := by
  decide

end Readership.Date

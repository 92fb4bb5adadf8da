import Mathlib.Tactic.IntervalCases
import Readership.Proofs.Calendar.Order

/-!
# The number of a day

The formula for the number of a day (`Date.number`) lets years begin in March. What it
counts are days all the same: those of the years before, those of the months before in
the same year, and those before in the same month (`Date.number_eq`). Years and months
are as long as the calendar says, so the days are numbered one after the other
(`Date.number_succ`, `Date.number_pred`) and their numbers stand in the order of the
dates (`Date.lt_iff_number`). Whatever is said about stretches of days can be said about
their numbers, and with as many seconds in every day about the seconds of instants
(`Instant.seconds`).
-/

namespace Readership

/-- The number of days of a year. -/
def daysInYear (year : Int) : Nat :=
  if isLeapYear year then 366 else 365

theorem daysInYear_bounds (year : Int) : 365 ≤ daysInYear year ∧ daysInYear year ≤ 366 := by
  rw [daysInYear]
  split <;> decide

/-- **The days of a year before a month**, which is the sum of the months before it. -/
def daysBefore (year : Int) : Nat → Nat
  | 0 | 1 => 0
  | month + 2 => daysBefore year (month + 1) + daysInMonth year (month + 1)

@[simp] theorem daysBefore_one (year : Int) : daysBefore year 1 = 0 := rfl

theorem daysBefore_succ (year : Int) {month : Nat} (h : 1 ≤ month) :
    daysBefore year (month + 1) = daysBefore year month + daysInMonth year month := by
  obtain ⟨month, rfl⟩ := Nat.exists_eq_add_of_le' h
  rfl

/-- **A month is over before a later one begins.** -/
theorem daysBefore_add_le (year : Int) {a b : Nat} (ha : 1 ≤ a) (h : a < b) :
    daysBefore year a + daysInMonth year a ≤ daysBefore year b := by
  induction b, h using Nat.le_induction with
  | base => exact (daysBefore_succ year ha).ge
  | succ b hb ih =>
    rw [daysBefore_succ year (by omega)]
    omega

/-- The twelve months make a year. -/
theorem daysBefore_thirteen (year : Int) : daysBefore year 13 = daysInYear year := by
  simp only [daysBefore, daysInMonth, daysInYear]
  split <;> rfl

namespace Date

/-- **The number of New Year's Day.** -/
def newYear (year : Int) : Int :=
  daysBeforeMarch (year - 1) + 306

/-- The two months before March are of one calendar year, and the ten from March on of
another. -/
theorem daysBeforeMarch_eq (year : Int) :
    daysBeforeMarch year = daysBeforeMarch (year - 1) + daysInYear year := by
  simp only [daysBeforeMarch, daysInYear, isLeapYear, Bool.and_eq_true, Bool.or_eq_true,
    beq_iff_eq, bne_iff_ne]
  split <;> omega

theorem newYear_succ (year : Int) : newYear (year + 1) = newYear year + daysInYear year := by
  rw [newYear, newYear, Int.add_sub_cancel, daysBeforeMarch_eq year]
  omega

/-- A year ends with its December. -/
theorem newYear_succ_eq_december (year : Int) :
    newYear (year + 1) = newYear year + daysBefore year 12 + daysInMonth year 12 := by
  rw [newYear_succ, ← daysBefore_thirteen, daysBefore_succ year (by decide)]
  omega

/-- **A year is over before a later one begins.** -/
theorem newYear_add_le {a b : Int} (h : a < b) : newYear a + daysInYear a ≤ newYear b := by
  induction b, h using Int.leInduction with
  | base => exact (newYear_succ a).ge
  | succ b hb ih =>
    rw [newYear_succ b]
    omega

/-- The months from March on, counted from March and counted from January. -/
theorem daysFromMarch_add (year : Int) {month : Nat} (h₁ : 3 ≤ month) (h₂ : month ≤ 12) :
    daysFromMarch month + daysInYear year = 306 + daysBefore year month := by
  interval_cases month <;> simp only [daysFromMarch, daysBefore, daysInMonth, daysInYear]
    <;> split <;> rfl

/-- **The number of a day counts the days before it**: whole years, whole months, and the
rest. -/
theorem number_eq (d : Date) :
    d.number = newYear d.year + daysBefore d.year d.month + (d.day - 1 : Nat) := by
  have hpos := d.month_pos
  rw [number, newYear]
  split
  next hle =>
    have hmonths : daysFromMarch d.month = 306 + daysBefore d.year d.month := by
      generalize d.month = month at hle hpos ⊢
      interval_cases month <;> rfl
    omega
  next hgt =>
    have hmonths := daysFromMarch_add d.year (by omega : 3 ≤ d.month) d.month_le
    have hyear := daysBeforeMarch_eq d.year
    omega

/-- A day lies within its month. -/
theorem number_lt_month (d : Date) :
    d.number < newYear d.year + daysBefore d.year d.month + daysInMonth d.year d.month := by
  have hday := d.day_le
  have hpos := d.day_pos
  rw [number_eq]
  omega

/-- **A day lies within its year.** -/
theorem number_mem_year (d : Date) :
    newYear d.year ≤ d.number ∧ d.number < newYear d.year + daysInYear d.year := by
  have hmonth := daysBefore_add_le d.year d.month_pos (Nat.lt_succ_of_le d.month_le)
  have hlt := d.number_lt_month
  rw [daysBefore_thirteen] at hmonth
  refine ⟨?_, by omega⟩
  rw [number_eq]
  omega

/-! ## The order of the numbers -/

theorem compare_eq_lt_iff {a b : Date} : a.compare b = .lt ↔ a.year < b.year ∨
    a.year = b.year ∧ (a.month < b.month ∨ a.month = b.month ∧ a.day < b.day) := by
  rw [Date.compare, Ordering.then_eq_lt, Ordering.then_eq_lt, Int.compare_eq_lt,
    Nat.compare_eq_lt, Nat.compare_eq_lt, Std.compare_eq_iff_eq, Std.compare_eq_iff_eq]

theorem compare_eq_gt_iff {a b : Date} : a.compare b = .gt ↔ b < a := by
  show Ord.compare a b = .gt ↔ Ord.compare b a = .lt
  exact Std.OrientedCmp.gt_iff_lt

theorem number_lt_of_lt {a b : Date} (h : a < b) : a.number < b.number := by
  rcases compare_eq_lt_iff.mp h with hyear | ⟨hyear, hmonth | ⟨hmonth, hday⟩⟩
  · -- one year is over before the other begins
    have := newYear_add_le hyear
    have := a.number_mem_year.2
    have := b.number_mem_year.1
    omega
  · have hover := daysBefore_add_le a.year a.month_pos hmonth
    have := a.number_lt_month
    rw [b.number_eq, ← hyear]
    omega
  · have := a.day_pos
    rw [a.number_eq, b.number_eq, ← hyear, ← hmonth]
    omega

theorem lt_or_eq_or_gt (a b : Date) : a < b ∨ a = b ∨ b < a := by
  cases hcompare : a.compare b with
  | lt => exact .inl hcompare
  | eq => exact .inr (.inl (compare_eq_iff.mp hcompare))
  | gt => exact .inr (.inr (compare_eq_gt_iff.mp hcompare))

/-- **Numbers stand in the order of the dates.** -/
theorem lt_iff_number {a b : Date} : a < b ↔ a.number < b.number := by
  refine ⟨number_lt_of_lt, fun h => ?_⟩
  rcases lt_or_eq_or_gt a b with hab | rfl | hba
  · exact hab
  · exact absurd h (Int.lt_irrefl _)
  · exact absurd (number_lt_of_lt hba) (Int.lt_asymm h)

theorem le_iff_number {a b : Date} : a ≤ b ↔ a.number ≤ b.number := by
  show (a.compare b).isLE = true ↔ _
  rw [← Ordering.ne_gt_iff_isLE, compare_eq_gt_iff, lt_iff_number, Int.not_lt]

/-- **A date is known by its number.** -/
theorem number_inj {a b : Date} : a.number = b.number ↔ a = b := by
  refine ⟨fun h => ?_, congrArg number⟩
  rcases lt_or_eq_or_gt a b with hab | heq | hba
  · exact absurd h (Int.ne_of_lt (number_lt_of_lt hab))
  · exact heq
  · exact absurd h.symm (Int.ne_of_lt (number_lt_of_lt hba))

theorem le_iff_lt_or_eq {a b : Date} : a ≤ b ↔ a < b ∨ a = b := by
  rw [le_iff_number, lt_iff_number, ← number_inj, Int.le_iff_lt_or_eq]

/-! ## Neighbours -/

theorem number_monthStart (d : Date) :
    d.monthStart.number = newYear d.year + daysBefore d.year d.month := by
  rw [number_eq]
  simp

theorem number_yearStart (d : Date) : d.yearStart.number = newYear d.year := by
  rw [number_eq]
  simp

theorem number_lastOfMonth (year : Int) (month : Nat) (h₁ : 1 ≤ month) (h₂ : month ≤ 12) :
    (lastOfMonth year month h₁ h₂).number
      = newYear year + daysBefore year month + daysInMonth year month - 1 := by
  have := one_le_daysInMonth year month
  rw [number_eq]
  simp only [lastOfMonth]
  omega

/-- **The day before** has the number before. -/
theorem number_pred (d : Date) : d.pred.number = d.number - 1 := by
  have hday := d.day_pos
  have hmonth := d.month_pos
  unfold pred
  split
  next h =>
    rw [number_eq, number_eq]
    simp only
    omega
  next h =>
    rw [d.number_eq]
    split
    next hm =>
      have hmonths := daysBefore_succ d.year (show 1 ≤ d.month - 1 by omega)
      rw [Nat.sub_add_cancel hmonth] at hmonths
      rw [number_lastOfMonth]
      omega
    next hm =>
      have hjanuary : d.month = 1 := by omega
      have hyear := newYear_succ_eq_december (d.year - 1)
      rw [Int.sub_add_cancel] at hyear
      rw [number_lastOfMonth, hjanuary, daysBefore_one]
      omega

/-- **The day after** has the number after. -/
theorem number_succ (d : Date) : d.succ.number = d.number + 1 := by
  have hday := d.day_pos
  have hle := d.day_le
  unfold succ
  split
  next h =>
    rw [number_eq, number_eq]
    simp only
    omega
  next h =>
    rw [d.number_eq]
    split
    next hm =>
      have hmonths := daysBefore_succ d.year d.month_pos
      rw [number_eq]
      simp only
      omega
    next hm =>
      have hdecember : d.month = 12 := Nat.le_antisymm d.month_le (by omega)
      have hyear := newYear_succ_eq_december d.year
      rw [hdecember] at h hle ⊢
      rw [number_eq]
      simp only [daysBefore_one]
      omega

/-- The day before the day after. -/
theorem pred_succ (d : Date) : d.succ.pred = d := by
  refine number_inj.mp ?_
  rw [number_pred, number_succ]
  omega

/-- Days back are taken off the number. -/
theorem number_back (n : Nat) (d : Date) : (back n d).number = d.number - n := by
  induction n generalizing d with
  | zero => simp
  | succ n ih =>
    rw [back_succ, ih, number_pred]
    omega

end Date

/-! ## Seconds -/

namespace Instant

/-- **The number of a second**, counted from the first of March of year zero. -/
def seconds (t : Instant) : Int :=
  t.date.number * secondsInDay + t.second

/-- **An instant is known by its second** and its fraction. -/
theorem eq_of_seconds_eq {t u : Instant} (h : t.seconds = u.seconds) (hnano : t.nano = u.nano) :
    t = u := by
  have hday : secondsInDay = 86400 := rfl
  have ht := t.second_lt
  have hu := u.second_lt
  rw [seconds, seconds, hday] at h
  have hdate : t.date = u.date := Date.number_inj.mp (by omega)
  have hsecond : t.second = u.second := by
    rw [hdate] at h
    omega
  cases t
  cases u
  simp_all

/-- An instant that is some whole seconds later than another. -/
structure IsLater (n : Nat) (t u : Instant) : Prop where
  seconds_eq : u.seconds = t.seconds + n
  nano_eq : u.nano = t.nano

/-- Only one instant is so many seconds later. -/
theorem IsLater.unique {n : Nat} {t u v : Instant} (hu : IsLater n t u) (hv : IsLater n t v) :
    u = v :=
  eq_of_seconds_eq (hu.seconds_eq.trans hv.seconds_eq.symm) (hu.nano_eq.trans hv.nano_eq.symm)

/-- **The last whole second of a date** is 86399 seconds after its midnight. -/
theorem isLater_endOf (d : Date) : IsLater 86399 (startOf d) (endOf d) :=
  ⟨by simp [seconds, startOf, endOf], rfl⟩

end Instant

end Readership

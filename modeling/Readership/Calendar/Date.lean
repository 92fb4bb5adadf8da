import Readership.Number.Numeral

/-!
# Calendar dates

A date of the Gregorian calendar, continued in both directions, is a year, a
month and a day that the month has. Years count through zero. The order is
that of the three numbers, the number of a day (`Date.number`) increases with
it by one a day, and everything about weeks is read off that number.
-/

namespace Readership

/-- Whether a year has a 29th of February. -/
def isLeapYear (year : Int) : Bool :=
  year % 4 == 0 && (year % 100 != 0 || year % 400 == 0)

/-- The number of days of a month; thirty-one for a number that is no month. -/
def daysInMonth (year : Int) (month : Nat) : Nat :=
  match month with
  | 2 => if isLeapYear year then 29 else 28
  | 4 | 6 | 9 | 11 => 30
  | _ => 31

/-- **A calendar date.** -/
structure Date where
  year : Int
  month : Nat
  day : Nat
  month_pos : 1 ≤ month
  month_le : month ≤ 12
  day_pos : 1 ≤ day
  day_le : day ≤ daysInMonth year month
deriving DecidableEq

namespace Date

/-- The date with these three numbers, if there is one. -/
def of? (year : Int) (month day : Nat) : Option Date :=
  if h : (1 ≤ month ∧ month ≤ 12) ∧ 1 ≤ day ∧ day ≤ daysInMonth year month then
    some ⟨year, month, day, h.1.1, h.1.2, h.2.1, h.2.2⟩
  else none

theorem one_le_daysInMonth (year : Int) (month : Nat) : 1 ≤ daysInMonth year month := by
  unfold daysInMonth
  split <;> try omega
  split <;> omega

theorem daysInMonth_le (year : Int) (month : Nat) : daysInMonth year month ≤ 31 := by
  unfold daysInMonth
  split <;> try omega
  split <;> omega

/-- Two digits are enough for a month. -/
theorem month_lt (d : Date) : d.month < 100 := by
  have := d.month_le
  omega

/-- Two digits are enough for a day. -/
theorem day_lt (d : Date) : d.day < 100 := by
  have := d.day_le
  have := daysInMonth_le d.year d.month
  omega

/-- The first day of the month of a date. -/
def monthStart (d : Date) : Date :=
  ⟨d.year, d.month, 1, d.month_pos, d.month_le, Nat.le_refl 1,
    one_le_daysInMonth d.year d.month⟩

/-- The first of January of the year of a date. -/
def yearStart (d : Date) : Date :=
  ⟨d.year, 1, 1, Nat.le_refl 1, by omega, Nat.le_refl 1, by simp [daysInMonth]⟩

/-- **The order of dates**: by year, then month, then day. -/
def compare (a b : Date) : Ordering :=
  (Ord.compare a.year b.year).then
    ((Ord.compare a.month b.month).then (Ord.compare a.day b.day))

instance : Ord Date := ⟨Date.compare⟩

/-- The last day of a month. -/
def lastOfMonth (year : Int) (month : Nat) (h₁ : 1 ≤ month) (h₂ : month ≤ 12) : Date :=
  ⟨year, month, daysInMonth year month, h₁, h₂, one_le_daysInMonth year month, Nat.le_refl _⟩

/-- **The day before.** -/
def pred (d : Date) : Date :=
  if h : 1 < d.day then
    ⟨d.year, d.month, d.day - 1, d.month_pos, d.month_le, by omega,
      Nat.le_trans (Nat.sub_le d.day 1) d.day_le⟩
  else if hm : 1 < d.month then
    lastOfMonth d.year (d.month - 1) (by omega) (Nat.le_trans (Nat.sub_le d.month 1) d.month_le)
  else lastOfMonth (d.year - 1) 12 (by omega) (by omega)

/-- **The day after.** -/
def succ (d : Date) : Date :=
  if h : d.day < daysInMonth d.year d.month then
    ⟨d.year, d.month, d.day + 1, d.month_pos, d.month_le, by omega, h⟩
  else if hm : d.month < 12 then
    ⟨d.year, d.month + 1, 1, by omega, hm, Nat.le_refl 1, one_le_daysInMonth _ _⟩
  else ⟨d.year + 1, 1, 1, Nat.le_refl 1, by omega, Nat.le_refl 1, one_le_daysInMonth _ _⟩

/-- The date some days earlier. -/
def back : Nat → Date → Date
  | 0, d => d
  | n + 1, d => back n d.pred

/-- The number of days from the first of March of year zero to the first of
March of a year. -/
def daysBeforeMarch (year : Int) : Int :=
  365 * year + year / 4 - year / 100 + year / 400

/-- The number of days of the months from March to the one before, where
January and February count as the eleventh and twelfth month from March. -/
def daysFromMarch (month : Nat) : Nat :=
  (153 * ((month + 9) % 12) + 2) / 5

/-- **The number of a day**, counted from the first of March of year zero. The
year is taken to begin with March, so that a leap day comes last. -/
def number (d : Date) : Int :=
  daysBeforeMarch (if d.month ≤ 2 then d.year - 1 else d.year)
    + daysFromMarch d.month + (d.day - 1 : Nat)

/-- **Days since Monday.** Day zero was a Wednesday. -/
def weekday (d : Date) : Nat :=
  ((d.number + 2) % 7).toNat

/-- The position of a date in its year, from one. -/
def dayOfYear (d : Date) : Nat :=
  (d.number - d.yearStart.number).toNat + 1

/-- The Monday of the week of a date. -/
def weekStart (d : Date) : Date :=
  back d.weekday d

/-- The Thursday of a week lies in the year that the week belongs to. The
number of a week is that of its Thursday among the Thursdays of the year. -/
def isoWeek (d : Date) : Int × Nat :=
  let thursday : Int := d.dayOfYear + 3 - d.weekday
  let lengthOf (year : Int) : Int := if isLeapYear year then 366 else 365
  if thursday < 1 then (d.year - 1, ((thursday + lengthOf (d.year - 1) - 1) / 7).toNat + 1)
  else if thursday > lengthOf d.year then
    (d.year + 1, ((thursday - lengthOf d.year - 1) / 7).toNat + 1)
  else (d.year, ((thursday - 1) / 7).toNat + 1)

/-- **The years that dates may have.** -/
def InRange (d : Date) : Prop :=
  -262143 ≤ d.year ∧ d.year ≤ 262142

instance (d : Date) : Decidable d.InRange :=
  inferInstanceAs (Decidable (_ ∧ _))

/-- **The date some days earlier**, if the calendar goes back that far. -/
def back? (n : Nat) (d : Date) : Option Date :=
  if (back n d).InRange then some (back n d) else none

/-- The year in at least four digits, with a sign if it needs more of them or
is negative. -/
def yearText (year : Int) : List Char :=
  if 0 ≤ year && year ≤ 9999 then Numeral.padded 4 year.toNat
  else (if year < 0 then '-' else '+') :: Numeral.padded 4 year.natAbs

/-- The year and the month of a date. -/
def monthText (d : Date) : List Char :=
  yearText d.year ++ '-' :: Numeral.padded 2 d.month

/-- A date as year, month and day. -/
def chars (d : Date) : List Char :=
  d.monthText ++ '-' :: Numeral.padded 2 d.day

/-- A date as text. -/
def text (d : Date) : String :=
  String.ofList d.chars

@[simp] theorem monthStart_year (d : Date) : d.monthStart.year = d.year := rfl

@[simp] theorem monthStart_month (d : Date) : d.monthStart.month = d.month := rfl

@[simp] theorem monthStart_day (d : Date) : d.monthStart.day = 1 := rfl

@[simp] theorem yearStart_year (d : Date) : d.yearStart.year = d.year := rfl

@[simp] theorem yearStart_month (d : Date) : d.yearStart.month = 1 := rfl

@[simp] theorem yearStart_day (d : Date) : d.yearStart.day = 1 := rfl

@[simp] theorem back_zero (d : Date) : back 0 d = d := rfl

@[simp] theorem back_succ (n : Nat) (d : Date) : back (n + 1) d = back n d.pred := rfl

end Date

end Readership

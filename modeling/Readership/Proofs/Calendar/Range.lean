import Readership.Proofs.Calendar.Bucket
import Readership.Proofs.Calendar.Reading

/-!
# The ends of the calendar

Dates have years from -262143 to 262142, and there are none before and after. The first
of all days is a Thursday (`Date.newYear_first`), so the week of the first four days begins
in the year before (`Date.BeforeFirstMonday`). For these days going back to Monday leads out
of the calendar (`Date.inRange_weekStart_iff`). It does so for no other day, and no other
bucket begins outside, so these are the only instants without a bucket
(`Bucket.truncate?_eq`).

At the other end nothing is lost. The last second of a day is on the same day, so it is
in the calendar whenever the day is (`Instant.afterMidnight?_endOf`).
-/

namespace Readership

namespace Date

variable {d e : Date} {year : Int}

/-- **A date is of a year or a later one** from New Year's Day on. -/
theorem le_year_iff : year ≤ d.year ↔ newYear year ≤ d.number := by
  obtain ⟨hfrom, hto⟩ := d.number_mem_year
  constructor
  · intro h
    rcases Int.lt_or_eq_of_le h with hlt | heq
    · have := newYear_add_le hlt
      omega
    · exact heq ▸ hfrom
  · intro h
    by_contra hlt
    have := newYear_add_le (Int.not_le.mp hlt)
    omega

theorem year_le_of_le (h : d ≤ e) : d.year ≤ e.year :=
  le_year_iff.mpr (Int.le_trans d.number_mem_year.1 (le_iff_number.mp h))

/-! ## The first days -/

/-- **The first of all days** is three days after a Monday. -/
theorem newYear_first : (newYear (-262143) + 2) % 7 = 3 := by
  decide

/-- **The days before the first Monday** of the calendar. -/
structure BeforeFirstMonday (d : Date) : Prop where
  year_eq : d.year = -262143
  month_eq : d.month = 1
  day_le : d.day ≤ 4

instance (d : Date) : Decidable d.BeforeFirstMonday :=
  decidable_of_iff (d.year = -262143 ∧ d.month = 1 ∧ d.day ≤ 4)
    ⟨fun h => ⟨h.1, h.2.1, h.2.2⟩, fun h => ⟨h.year_eq, h.month_eq, h.day_le⟩⟩

/-- The days before the first Monday have the first four numbers. -/
theorem beforeFirstMonday_iff (h : d.InRange) :
    d.BeforeFirstMonday ↔ d.number < newYear (-262143) + 4 := by
  have hpos := d.day_pos
  have hnumber := d.number_eq
  constructor
  · rintro ⟨hyear, hmonth, hday⟩
    rw [hyear, hmonth, daysBefore_one] at hnumber
    omega
  · intro hlt
    have hyear : d.year = -262143 := by
      have hlater : ¬ -262142 ≤ d.year := by
        rw [le_year_iff, show newYear (-262142) = newYear (-262143) + 365 by decide]
        omega
      have hfirst := h.1
      omega
    rw [hyear] at hnumber
    have hmonth : d.month = 1 := by
      by_contra hne
      have hjanuary := daysBefore_add_le (-262143) (Nat.le_refl 1)
        (Nat.lt_of_le_of_ne d.month_pos (Ne.symm hne))
      rw [show daysInMonth (-262143) 1 = 31 by decide] at hjanuary
      omega
    rw [hmonth, daysBefore_one] at hnumber
    exact ⟨hyear, hmonth, by omega⟩

/-- **The Monday of a week is in the calendar**, unless it is before the first one. -/
theorem inRange_weekStart_iff (h : d.InRange) : d.weekStart.InRange ↔ ¬ d.BeforeFirstMonday := by
  have hfirst := newYear_first
  have hle : d.weekStart ≤ d := Bucket.week.start_le d
  have hupper := Int.le_trans (year_le_of_le hle) h.2
  have hlower := le_year_iff.mp h.1
  have hday := d.weekday_eq
  have hrange : d.weekStart.InRange ↔ newYear (-262143) ≤ d.weekStart.number :=
    ⟨fun h => le_year_iff.mp h.1, fun h => ⟨le_year_iff.mpr h, hupper⟩⟩
  rw [hrange, beforeFirstMonday_iff h, number_weekStart]
  omega

end Date

/-! ## Buckets -/

namespace Bucket

variable {d : Date} {t : Instant} (bucket : Bucket)

/-- **The dates whose bucket has no first day**, which are those of a week that begins before
the calendar. -/
structure LacksStart (bucket : Bucket) (d : Date) : Prop where
  bucket_eq : bucket = .week
  before : d.BeforeFirstMonday

instance (bucket : Bucket) (d : Date) : Decidable (bucket.LacksStart d) :=
  decidable_of_iff (bucket = .week ∧ d.BeforeFirstMonday)
    ⟨fun h => ⟨h.1, h.2⟩, fun h => ⟨h.bucket_eq, h.before⟩⟩

/-- **The first day of a bucket is in the calendar**, if there is such a day. -/
theorem inRange_start_iff (h : d.InRange) :
    (bucket.start d).InRange ↔ ¬ bucket.LacksStart d := by
  cases bucket with
  | week =>
    rw [start_week, Date.inRange_weekStart_iff h]
    exact not_congr ⟨fun hd => ⟨rfl, hd⟩, LacksStart.before⟩
  | day => exact iff_of_true h nofun
  | month => exact iff_of_true h nofun
  | year => exact iff_of_true h nofun

/-- **Looking for the first day of a bucket** finds it, if there is such a day. -/
theorem truncate?_eq (h : t.date.InRange) :
    bucket.truncate? t = if bucket.LacksStart t.date then none else some (bucket.truncate t) := by
  cases bucket with
  | week =>
    have hstart := week.inRange_start_iff h
    rw [start_week] at hstart
    show (if t.date.weekStart.InRange then _ else none) = _
    by_cases hlacks : week.LacksStart t.date
    · rw [if_pos hlacks, if_neg fun hrange => hstart.mp hrange hlacks]
    · rw [if_neg hlacks, if_pos (hstart.mpr hlacks)]
      rfl
  | day => exact (if_neg nofun).symm
  | month => exact (if_neg nofun).symm
  | year => exact (if_neg nofun).symm

theorem truncate?_eq_none_iff (h : t.date.InRange) :
    bucket.truncate? t = none ↔ bucket.LacksStart t.date := by
  simp [bucket.truncate?_eq h]

/-- **What is found** is the first day of the bucket, and in the calendar. -/
theorem truncate?_eq_some_iff (h : t.date.InRange) :
    bucket.truncate? t = some d ↔ d = bucket.truncate t ∧ d.InRange := by
  rw [bucket.truncate?_eq h]
  constructor
  · intro hd
    split at hd
    next => cases hd
    next hlacks =>
      cases hd
      exact ⟨rfl, (bucket.inRange_start_iff h).mpr hlacks⟩
  · rintro ⟨rfl, hrange⟩
    exact if_neg ((bucket.inRange_start_iff h).mp hrange)

end Bucket

/-! ## Ends of days -/

namespace Instant

variable {d : Date} {t : Instant} {n : Nat}

/-- **The instant some seconds after a midnight**, if the calendar goes on that far. -/
def afterMidnight? (n : Nat) (d : Date) : Option Instant :=
  let last := d.forth (n / secondsInDay)
  if last.InRange then of? last (n % secondsInDay) 0 else none

/-- **What the addition comes to**: the instant that is so many seconds later, if it is in
the calendar. -/
theorem afterMidnight?_eq_some_iff :
    afterMidnight? n d = some t ↔ IsLater n (startOf d) t ∧ t.date.InRange := by
  have hday : secondsInDay = 86400 := rfl
  obtain ⟨u, hu⟩ : ∃ u, of? (d.forth (n / secondsInDay)) (n % secondsInDay) 0 = some u :=
    ⟨_, dif_pos ⟨Nat.mod_lt n (by decide), by decide⟩⟩
  obtain ⟨hdate, hsecond, hnano⟩ := Calendar.yields_of? _ _ _ u hu
  have hlater : IsLater n (startOf d) u := by
    refine ⟨?_, hnano⟩
    rw [seconds, hdate, hsecond, Date.number_forth, hday]
    simp only [seconds, startOf, hday]
    omega
  have hadd : afterMidnight? n d = if u.date.InRange then some u else none := by
    rw [afterMidnight?, hu, hdate]
  rw [hadd, Option.ite_none_right_eq_some, Option.some_inj]
  constructor
  · rintro ⟨hrange, rfl⟩
    exact ⟨hlater, hrange⟩
  · rintro ⟨ht, hrange⟩
    cases hlater.unique ht
    exact ⟨hrange, rfl⟩

/-- **A day does not end after the calendar.** -/
theorem afterMidnight?_endOf (h : d.InRange) : afterMidnight? 86399 d = some (endOf d) :=
  afterMidnight?_eq_some_iff.mpr ⟨isLater_endOf d, h⟩

end Instant

end Readership

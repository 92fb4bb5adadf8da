import Readership.Proofs.Calendar.Label

/-!
# Buckets partition time

A bucket begins on a date of a certain kind – any day, a Monday, the first of a month, New
Year's Day (`Bucket.IsStart`) – and lasts until the next date of that kind. Such a
stretch of days holds a date (`Bucket.Holds`) for exactly one start, and that is the
start which truncating finds: it never goes beyond the date, and the day after the last
day of the bucket (`Bucket.last`) is a start again.

Everything rests on two facts about one bucket size: a start is its own truncation, and
truncating keeps the order. A start that is not after a date is therefore not after the
truncation of that date (`Bucket.le_start_of_isStart`).
-/

namespace Readership

namespace Date

/-- The date some days later. -/
def forth : Nat → Date → Date
  | 0, d => d
  | n + 1, d => forth n d.succ

theorem number_forth (n : Nat) (d : Date) : (forth n d).number = d.number + n := by
  induction n generalizing d with
  | zero => simp [forth]
  | succ n ih =>
    rw [forth, ih, number_succ]
    omega

/-- The last day of the year of a date. -/
def yearLast (d : Date) : Date :=
  lastOfMonth d.year 12 (Nat.le_add_left 1 11) (Nat.le_refl 12)

/-- The last day of the month of a date. -/
def monthLast (d : Date) : Date :=
  lastOfMonth d.year d.month d.month_pos d.month_le

/-- **The day after the last of a month** is the first of one. -/
theorem day_succ_lastOfMonth (year : Int) (month : Nat) (h₁ : 1 ≤ month) (h₂ : month ≤ 12) :
    (lastOfMonth year month h₁ h₂).succ.day = 1 := by
  unfold succ
  split
  next h => exact absurd h (Nat.lt_irrefl _)
  next => split <;> rfl

/-- **The day after the last of a year** is in January. -/
theorem month_succ_yearLast (d : Date) : d.yearLast.succ.month = 1 := by
  unfold succ
  split
  next h => exact absurd h (Nat.lt_irrefl _)
  next => rfl

/-- **The first of a month** comes no later than that of a later date. -/
theorem monthStart_le {d e : Date} (h : d ≤ e) : d.monthStart ≤ e.monthStart := by
  rw [le_iff_lt_or_eq] at h ⊢
  rcases h with hlt | rfl
  · rcases compare_eq_lt_iff.mp hlt with hyear | ⟨hyear, hmonth | ⟨hmonth, -⟩⟩
    · exact .inl (compare_eq_lt_iff.mpr (.inl hyear))
    · exact .inl (compare_eq_lt_iff.mpr (.inr ⟨hyear, .inl hmonth⟩))
    · exact .inr (eq_of_parts hyear hmonth rfl)
  · exact .inr rfl

/-- **New Year's Day** comes no later than that of a later date. -/
theorem yearStart_le {d e : Date} (h : d ≤ e) : d.yearStart ≤ e.yearStart := by
  rw [le_iff_lt_or_eq] at h ⊢
  rcases h with hlt | rfl
  · rcases compare_eq_lt_iff.mp hlt with hyear | ⟨hyear, -⟩
    · exact .inl (compare_eq_lt_iff.mpr (.inl hyear))
    · exact .inr (eq_of_parts hyear rfl rfl)
  · exact .inr rfl

end Date

namespace Bucket

open Date (le_iff_number lt_iff_number number_inj)

/-- **The dates that a bucket may begin on.** -/
def IsStart : Bucket → Date → Prop
  | day, _ => True
  | week, d => d.weekday = 0
  | month, d => d.day = 1
  | year, d => d.month = 1 ∧ d.day = 1

/-- **The last day of the bucket that holds a date.** -/
def last : Bucket → Date → Date
  | day, d => d
  | week, d => d.weekStart.forth 6
  | month, d => d.monthLast
  | year, d => d.yearLast

/-- **The next start**: a start, and no other is in between. -/
structure IsNext (bucket : Bucket) (start next : Date) : Prop where
  isStart : bucket.IsStart next
  after : start < next
  least : ∀ s, bucket.IsStart s → start < s → next ≤ s

/-- **A bucket that begins on `start` holds a date**: the date is not before `start`, but
before the next start. -/
structure Holds (bucket : Bucket) (start d : Date) : Prop where
  isStart : bucket.IsStart start
  le : start ≤ d
  lt_next : ∃ next, bucket.IsNext start next ∧ d < next

variable (bucket : Bucket) {d e : Date}

/-! ## Starts -/

/-- **Truncating finds a start.** -/
theorem isStart_start (d : Date) : bucket.IsStart (bucket.start d) := by
  cases bucket with
  | day => trivial
  | week => exact d.weekday_weekStart
  | month => rfl
  | year => exact ⟨rfl, rfl⟩

/-- **A start is its own truncation.** -/
theorem start_of_isStart (h : bucket.IsStart d) : bucket.start d = d := by
  cases bucket with
  | day => rfl
  | week => exact Date.weekStart_of_weekday_eq_zero h
  | month => exact Date.eq_of_parts rfl rfl h.symm
  | year => exact Date.eq_of_parts rfl h.1.symm h.2.symm

/-- Truncating never goes beyond the date. -/
theorem start_le (d : Date) : bucket.start d ≤ d := by
  rw [le_iff_number]
  cases bucket with
  | day => exact Int.le_refl _
  | week =>
    rw [start_week, Date.number_weekStart]
    omega
  | month =>
    rw [start_month, Date.number_monthStart, d.number_eq]
    omega
  | year =>
    rw [start_year, Date.number_yearStart]
    exact d.number_mem_year.1

/-- **Truncating keeps the order.** -/
theorem start_mono (h : d ≤ e) : bucket.start d ≤ bucket.start e := by
  cases bucket with
  | day => exact h
  | week =>
    have hd := d.weekday_eq
    have he := e.weekday_eq
    rw [le_iff_number] at h ⊢
    rw [start_week, start_week, Date.number_weekStart, Date.number_weekStart]
    omega
  | month => exact Date.monthStart_le h
  | year => exact Date.yearStart_le h

/-- **No start is between** a date and its truncation. -/
theorem le_start_of_isStart (hstart : bucket.IsStart d) (h : d ≤ e) : d ≤ bucket.start e := by
  have hmono := bucket.start_mono h
  rwa [bucket.start_of_isStart hstart] at hmono

/-! ## The last day of a bucket -/

/-- The last day is in the same bucket. -/
theorem start_last (d : Date) : bucket.start (bucket.last d) = bucket.start d := by
  cases bucket with
  | day => rfl
  | week =>
    have hstart := d.weekStart.weekday_eq
    have hlast := (d.weekStart.forth 6).weekday_eq
    rw [Date.weekday_weekStart] at hstart
    rw [Date.number_forth] at hlast
    refine number_inj.mp ?_
    rw [start_week, last, Date.number_weekStart, Date.number_forth, start_week]
    omega
  | month => rfl
  | year => rfl

/-- No day of a bucket is after its last day. -/
theorem le_last (d : Date) : d ≤ bucket.last d := by
  rw [le_iff_number]
  cases bucket with
  | day => exact Int.le_refl _
  | week =>
    have hday := d.weekday_eq
    rw [last, Date.number_forth, Date.number_weekStart]
    omega
  | month =>
    have hmonth := d.number_lt_month
    rw [last, Date.monthLast, Date.number_lastOfMonth]
    omega
  | year =>
    have hyear := d.number_mem_year.2
    have hdecember := Date.newYear_succ_eq_december d.year
    rw [Date.newYear_succ] at hdecember
    rw [last, Date.yearLast, Date.number_lastOfMonth]
    omega

/-- **The day after the last day is a start.** -/
theorem isStart_succ_last (d : Date) : bucket.IsStart (bucket.last d).succ := by
  cases bucket with
  | day => trivial
  | week =>
    have hstart := d.weekStart.weekday_eq
    have hnext := (d.weekStart.forth 6).succ.weekday_eq
    rw [Date.weekday_weekStart] at hstart
    rw [Date.number_succ, Date.number_forth] at hnext
    show (d.weekStart.forth 6).succ.weekday = 0
    omega
  | month => exact Date.day_succ_lastOfMonth _ _ _ _
  | year => exact ⟨d.month_succ_yearLast, Date.day_succ_lastOfMonth _ _ _ _⟩

/-- **The next start** is the day after the last day of a bucket. -/
theorem isNext_succ_last (d : Date) : bucket.IsNext (bucket.start d) (bucket.last d).succ := by
  have hstart := le_iff_number.mp (bucket.start_le d)
  have hlast := le_iff_number.mp (bucket.le_last d)
  have hsucc := (bucket.last d).number_succ
  refine ⟨bucket.isStart_succ_last d, lt_iff_number.mpr (by omega), fun s hs hafter => ?_⟩
  rw [lt_iff_number] at hafter
  -- a start that were still in the bucket would be its start
  have hbeyond : ¬ s ≤ bucket.last d := by
    intro hle
    have hback := bucket.le_start_of_isStart hs hle
    rw [start_last, le_iff_number] at hback
    omega
  rw [le_iff_number] at hbeyond ⊢
  omega

/-! ## The bucket of a date -/

/-- **The bucket that begins on the truncation of a date** holds the date. -/
theorem holds_start (d : Date) : bucket.Holds (bucket.start d) d := by
  have hlast := le_iff_number.mp (bucket.le_last d)
  have hsucc := (bucket.last d).number_succ
  exact ⟨bucket.isStart_start d, bucket.start_le d, _, bucket.isNext_succ_last d,
    lt_iff_number.mpr (by omega)⟩

/-- **No other bucket holds it.** The start of one that does is not after the truncation,
and not before it either, as the truncation would be a start in between. -/
theorem eq_start_of_holds {start : Date} (h : bucket.Holds start d) : start = bucket.start d := by
  obtain ⟨hstart, hle, next, hnext, hlt⟩ := h
  have hback := le_iff_number.mp (bucket.le_start_of_isStart hstart hle)
  have hself := le_iff_number.mp (bucket.start_le d)
  rw [lt_iff_number] at hlt
  refine number_inj.mp (Int.le_antisymm hback (Int.not_lt.mp fun hbefore => ?_))
  have hleast := hnext.least _ (bucket.isStart_start d) (lt_iff_number.mpr hbefore)
  rw [le_iff_number] at hleast
  omega

/-- **Starts of the same label are the same.** -/
theorem eq_of_labelChars_eq (hd : bucket.IsStart d) (he : bucket.IsStart e)
    (h : bucket.labelChars d = bucket.labelChars e) : d = e := by
  cases bucket with
  | day => exact Date.chars_inj h
  | week => exact Date.eq_of_isoWeek_eq hd he (isoWeek_eq_of_labelChars_eq h)
  | month =>
    obtain ⟨hyear, hmonth⟩ := Date.monthText_inj h
    exact Date.eq_of_parts hyear hmonth (hd.trans he.symm)
  | year =>
    exact Date.eq_of_parts (Date.yearText_inj h) (hd.1.trans he.1.symm) (hd.2.trans he.2.symm)

end Bucket

/-- Earlier instants are of earlier dates. -/
theorem Instant.date_le {a b : Instant} (h : a ≤ b) : a.date ≤ b.date :=
  Date.le_iff_lt_or_eq.mpr ((Instant.le_iff.mp h).imp_right And.left)

/-- **Buckets partition time, and labels name them.** The bucket that begins on the
truncation of an instant holds its date, and no other does; truncating the midnight of a
start changes nothing, and truncating keeps the order. Two instants have buckets of the
same label exactly if they have the same bucket. -/
theorem Bucket.truncate_partitions (bucket : Bucket) (a b : Instant) :
    bucket.Holds (bucket.truncate a) a.date ∧
      (∀ start, bucket.Holds start a.date → start = bucket.truncate a) ∧
      bucket.truncate (.startOf (bucket.truncate a)) = bucket.truncate a ∧
      (a ≤ b → bucket.truncate a ≤ bucket.truncate b) ∧
      (bucket.label (bucket.truncate a) = bucket.label (bucket.truncate b)
        ↔ bucket.truncate a = bucket.truncate b) := by
  have hstart (t : Instant) : bucket.IsStart (bucket.truncate t) := bucket.isStart_start t.date
  refine ⟨bucket.holds_start a.date, fun start h => bucket.eq_start_of_holds h,
    bucket.start_of_isStart (hstart a), fun h => bucket.start_mono (Instant.date_le h), ?_⟩
  constructor
  · intro h
    exact bucket.eq_of_labelChars_eq (hstart a) (hstart b) (String.ofList_injective h)
  · exact congrArg bucket.label

end Readership

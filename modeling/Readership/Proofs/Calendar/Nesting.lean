import Readership.Proofs.Calendar.Bucket

/-!
# Buckets within buckets

A day lies in one week, one month and one year, and a month in one year, so a date may be
truncated to the shorter size first (`Bucket.start_start`). These are all pairs of
different sizes for which this is so (`Bucket.start_start_iff`): a week may begin in one
month, or one year, and end in the next.
-/

namespace Readership.Bucket

/-- **A shorter size and a longer one**, the buckets of which consist of whole buckets of
the shorter. -/
inductive Nests : Bucket → Bucket → Prop where
  | dayInWeek : Nests day week
  | dayInMonth : Nests day month
  | dayInYear : Nests day year
  | monthInYear : Nests month year

variable {fine coarse : Bucket}

/-- **The longer bucket of a date** is that of its shorter one. -/
theorem start_start (h : fine.Nests coarse) (d : Date) :
    coarse.start (fine.start d) = coarse.start d := by
  cases h <;> rfl

/-- **No other sizes nest.** The first of January 2025 is in a week of the old year, and the
last of May is in another week than the first of May and in another month than the first of
January. -/
theorem start_start_iff : (∀ d, coarse.start (fine.start d) = coarse.start d)
    ↔ fine = coarse ∨ fine.Nests coarse := by
  constructor
  · intro h
    have hnewYear := h ⟨2025, 1, 1, by decide, by decide, by decide, by decide⟩
    have hlateMay := h ⟨2025, 5, 31, by decide, by decide, by decide, by decide⟩
    cases fine <;> cases coarse
    case day.day | week.week | month.month | year.year => exact .inl rfl
    case day.week => exact .inr .dayInWeek
    case day.month => exact .inr .dayInMonth
    case day.year => exact .inr .dayInYear
    case month.year => exact .inr .monthInYear
    case week.day | week.month | week.year => exact absurd hnewYear (by decide)
    case month.day | month.week | year.day | year.week | year.month =>
      exact absurd hlateMay (by decide)
  · rintro (rfl | h) d
    · exact fine.start_of_isStart (fine.isStart_start d)
    · exact start_start h d

end Readership.Bucket

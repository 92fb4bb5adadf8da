import Readership.Calendar.Instant

/-!
# Buckets

A time series counts views by day, week, month or year. A bucket is known by
its first day, and its label is as short as its size allows: a day in full, a
week by its number in the year it belongs to, a month, a year.
-/

namespace Readership

/-- **The size of a bucket.** Weeks begin on Monday. -/
inductive Bucket where
  | day
  | week
  | month
  | year
deriving DecidableEq, Repr

namespace Bucket

/-- All sizes, from short to long. -/
def all : List Bucket := [day, week, month, year]

/-- The word for a size. -/
def name : Bucket → String
  | day => "day"
  | week => "week"
  | month => "month"
  | year => "year"

/-- **The first day of the bucket that holds a date.** -/
def start : Bucket → Date → Date
  | day, d => d
  | week, d => d.weekStart
  | month, d => d.monthStart
  | year, d => d.yearStart

/-- The first day of the bucket that holds an instant. -/
def truncate (b : Bucket) (t : Instant) : Date :=
  b.start t.date

/-- **The first day of the bucket that holds a date**, if there is such a day. A month and a
year are found by setting the day and the month of the date; to the Monday of a week one
has to go back, and the calendar may not go back that far. -/
def start? : Bucket → Date → Option Date
  | week, d => d.back? d.weekday
  | day, d => some (day.start d)
  | month, d => some (month.start d)
  | year, d => some (year.start d)

/-- The first day of the bucket that holds an instant, if there is such a day. -/
def truncate? (b : Bucket) (t : Instant) : Option Date :=
  b.start? t.date

/-- **The label of a bucket**, given its first day. -/
def labelChars : Bucket → Date → List Char
  | day, d => d.chars
  | week, d =>
    (Numeral.ofInt d.isoWeek.1).toList ++ '-' :: 'W' :: Numeral.padded 2 d.isoWeek.2
  | month, d => d.monthText
  | year, d => Date.yearText d.year

/-- The label of a bucket as text. -/
def label (b : Bucket) (d : Date) : String :=
  String.ofList (b.labelChars d)

@[simp] theorem start_day (d : Date) : day.start d = d := rfl

@[simp] theorem start_week (d : Date) : week.start d = d.weekStart := rfl

@[simp] theorem start_month (d : Date) : month.start d = d.monthStart := rfl

@[simp] theorem start_year (d : Date) : year.start d = d.yearStart := rfl

end Bucket

end Readership

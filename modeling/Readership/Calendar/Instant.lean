import Readership.Calendar.Date

/-!
# Instants

An instant is a date, a second of that date and a fraction of the second, all
in UTC. Within a leap second the clock keeps the number of the second before
and the fraction runs on beyond a whole second, so that `12:00:60` lies
between `12:00:59` and `12:01:00` and instants are ordered by their three
parts.
-/

namespace Readership

/-- The number of nanoseconds in a second. -/
def nanosInSecond : Nat := 1000000000

/-- The number of seconds in a day. -/
def secondsInDay : Nat := 86400

/-- **An instant** in UTC. -/
structure Instant where
  date : Date
  second : Nat
  /-- Nanoseconds since the second began; a whole second or more of them is a
  leap second. -/
  nano : Nat
  second_lt : second < secondsInDay
  nano_lt : nano < 2 * nanosInSecond
deriving DecidableEq

namespace Instant

/-- The first instant of a date. -/
def startOf (d : Date) : Instant :=
  ⟨d, 0, 0, by decide, by decide⟩

/-- The last whole second of a date. -/
def endOf (d : Date) : Instant :=
  ⟨d, 86399, 0, by decide, by decide⟩

/-- **The order of instants**: by date, then second, then fraction. -/
def compare (a b : Instant) : Ordering :=
  (a.date.compare b.date).then
    ((Ord.compare a.second b.second).then (Ord.compare a.nano b.nano))

instance : Ord Instant := ⟨Instant.compare⟩

/-- The instant with these parts, if they are within their bounds. -/
def of? (date : Date) (second nano : Nat) : Option Instant :=
  if h : second < secondsInDay ∧ nano < 2 * nanosInSecond then
    some ⟨date, second, nano, h.1, h.2⟩
  else none

/-- **From local time to UTC.** The clock of a place that is `offset` seconds
ahead of UTC shows this date, second and fraction. Offsets are less than a day,
so the date changes by at most one. -/
def ofLocal? (date : Date) (second nano : Nat) (offset : Int) : Option Instant :=
  let shifted : Int := second - offset
  if shifted < 0 then of? date.pred (shifted + secondsInDay).toNat nano
  else if shifted < secondsInDay then of? date shifted.toNat nano
  else of? date.succ (shifted - secondsInDay).toNat nano

/-- The part of a second that has passed. -/
def subsecond (t : Instant) : Nat := t.nano % nanosInSecond

/-- Hours, minutes and seconds; a leap second is the sixtieth. -/
def clockChars (t : Instant) : List Char :=
  Numeral.padded 2 (t.second / 3600) ++ ':' :: Numeral.padded 2 (t.second / 60 % 60)
    ++ ':' :: Numeral.padded 2 (t.second % 60 + t.nano / nanosInSecond)

/-- The date and the time of day to the second, a blank between them. -/
def plainChars (t : Instant) : List Char :=
  t.date.chars ++ ' ' :: t.clockChars

/-- The fraction of a second in three, six or nine digits, as few as show all
of it; nothing if there is none. -/
def fractionChars (t : Instant) : List Char :=
  let n := t.subsecond
  if n = 0 then []
  else if n % 1000000 = 0 then '.' :: Numeral.padded 3 (n / 1000000)
  else if n % 1000 = 0 then '.' :: Numeral.padded 6 (n / 1000)
  else '.' :: Numeral.padded 9 n

/-- Date and time with `T` between them, without an offset. -/
def isoChars (t : Instant) : List Char :=
  t.date.chars ++ 'T' :: t.clockChars ++ t.fractionChars

/-- The date and the time of day to the second. -/
def plainText (t : Instant) : String :=
  String.ofList t.plainChars

/-- The date and the time of day to the nanosecond. -/
def fullText (t : Instant) : String :=
  String.ofList (t.plainChars ++ '.' :: Numeral.padded 9 t.subsecond)

/-- **An instant with its offset written out**, `+00:00`. -/
def offsetText (t : Instant) : String :=
  String.ofList (t.isoChars ++ ['+', '0', '0', ':', '0', '0'])

/-- An instant with the letter `Z` for UTC. -/
def zuluText (t : Instant) : String :=
  String.ofList (t.isoChars ++ ['Z'])

@[simp] theorem startOf_date (d : Date) : (startOf d).date = d := rfl

@[simp] theorem endOf_date (d : Date) : (endOf d).date = d := rfl

end Instant

end Readership

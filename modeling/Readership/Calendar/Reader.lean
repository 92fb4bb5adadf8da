import Readership.Calendar.Instant
import Readership.Text.Blank
import Readership.Text.Reader

/-!
# Reading dates and instants

Three grammars. The strict one is that of RFC 3339: every number has its full
width and an offset is given. The casual one leaves out leading zeros and
allows white space before a number; it has no offset and means UTC. The
lenient one, for datasets, is the casual one with white space almost anywhere
and an offset after it; only between the date and the time of day a letter or a
plain blank has to stand first.

A number that is out of place – month thirteen, the 30th of February – is a
fault like any other. Second sixty is a leap second and is accepted in every
minute.
-/

namespace Readership.Calendar

open Text (Reader literal digitRun fixedNumber)

/-- A number of one or two digits after white space. -/
def shortNumber : Reader Nat := fun cs => do
  let (run, rest) ← digitRun 1 2 (Text.trimStart cs)
  pure (Numeral.value run, rest)

/-- A year after white space: up to four digits, or any number of them after a
sign. -/
def year : Reader Int := fun cs =>
  match Text.trimStart cs with
  | '-' :: cs => do
    let (run, rest) ← digitRun 1 cs.length cs
    pure (-(Numeral.value run : Int), rest)
  | '+' :: cs => do
    let (run, rest) ← digitRun 1 cs.length cs
    pure ((Numeral.value run : Int), rest)
  | cs => do
    let (run, rest) ← digitRun 1 4 cs
    pure ((Numeral.value run : Int), rest)

/-- The nanoseconds that decimals of a second spell; the tenth and later ones
are passed over. -/
def nanosOf (decimals : List Char) : Nat :=
  let shown := decimals.take 9
  Numeral.value shown * Nat.pow 10 (9 - shown.length)

/-- A decimal point and at least one digit, or nothing. -/
def fraction : Reader Nat
  | '.' :: cs => do
    let (run, rest) ← digitRun 1 cs.length cs
    pure (nanosOf run, rest)
  | cs => some (0, cs)

/-- White space, or none. -/
def blanks : Reader Unit := fun cs => some ((), Text.trimStart cs)

/-- The date with these numbers, if it exists and its year is within range. -/
def dateOf (year : Int) (month day : Nat) : Option Date := do
  let date ← Date.of? year month day
  if date.InRange then pure date else none

/-- The second of the day and the nanosecond that a clock shows. -/
def clockOf (hour minute second nano : Nat) : Option (Nat × Nat) :=
  if hour ≤ 23 && minute ≤ 59 && second ≤ 60 then
    let base := hour * 3600 + minute * 60
    if second = 60 then some (base + 59, nano + nanosInSecond) else some (base + second, nano)
  else none

/-- A date whose numbers have no leading zeros to keep. -/
def casualDate : Reader Date := fun cs => do
  let (y, cs) ← year cs
  let (_, cs) ← literal '-' cs
  let (m, cs) ← shortNumber cs
  let (_, cs) ← literal '-' cs
  let (d, cs) ← shortNumber cs
  let date ← dateOf y m d
  pure (date, cs)

/-- Hours, minutes, seconds and decimals of a second. -/
def casualClock : Reader (Nat × Nat) := fun cs => do
  let (h, cs) ← shortNumber cs
  let (_, cs) ← literal ':' cs
  let (m, cs) ← shortNumber cs
  let (_, cs) ← literal ':' cs
  let (s, cs) ← shortNumber cs
  let (n, cs) ← fraction cs
  let clock ← clockOf h m s n
  pure (clock, cs)

/-- Hours and minutes. -/
def casualMinutes : Reader (Nat × Nat) := fun cs => do
  let (h, cs) ← shortNumber cs
  let (_, cs) ← literal ':' cs
  let (m, cs) ← shortNumber cs
  let clock ← clockOf h m 0 0
  pure (clock, cs)

/-- A date, a separator and a time of day in UTC, and nothing after them. -/
def casualInstant (separator : Reader Unit) (clock : Reader (Nat × Nat))
    (cs : List Char) : Option Instant := do
  let (date, cs) ← casualDate cs
  let (_, cs) ← separator cs
  let ((second, nano), cs) ← clock cs
  if cs.isEmpty then Instant.of? date second nano else none

/-- The sign of an offset; the minus sign proper is one too. -/
def offsetSign : Reader Int
  | '+' :: cs => some (1, cs)
  | '-' :: cs => some (-1, cs)
  | '\u2212' :: cs => some (-1, cs)
  | _ => none

/-- **An offset from UTC** in seconds: `Z`, or a sign, two digits for hours and
two for minutes with a separator between them. -/
def offset (separator : Reader Unit) : Reader Int
  | 'Z' :: cs => some (0, cs)
  | 'z' :: cs => some (0, cs)
  | cs => do
    let (sign, cs) ← offsetSign cs
    let (hours, cs) ← fixedNumber 2 cs
    let (_, cs) ← separator cs
    let (minutes, cs) ← fixedNumber 2 cs
    if hours ≤ 23 && minutes ≤ 59 then
      pure (sign * (hours * 3600 + minutes * 60 : Nat), cs)
    else none

/-- `T`, `t` or a blank. -/
def dateTimeSeparator : Reader Unit
  | 'T' :: cs => some ((), cs)
  | 't' :: cs => some ((), cs)
  | ' ' :: cs => some ((), cs)
  | _ => none

/-- The instant of a local date and time, unless its date in UTC is out of
range. -/
def instantOf (date : Date) (clock : Nat × Nat) (offset : Int) : Option Instant := do
  let instant ← Instant.ofLocal? date clock.1 clock.2 offset
  if instant.date.InRange then pure instant else none

/-- **The strict grammar**, with nothing after it. -/
def strictInstant (cs : List Char) : Option Instant := do
  let (y, cs) ← fixedNumber 4 cs
  let (_, cs) ← literal '-' cs
  let (m, cs) ← fixedNumber 2 cs
  let (_, cs) ← literal '-' cs
  let (d, cs) ← fixedNumber 2 cs
  let (_, cs) ← dateTimeSeparator cs
  let (h, cs) ← fixedNumber 2 cs
  let (_, cs) ← literal ':' cs
  let (min, cs) ← fixedNumber 2 cs
  let (_, cs) ← literal ':' cs
  let (s, cs) ← fixedNumber 2 cs
  let (n, cs) ← fraction cs
  let (off, cs) ← offset (literal ':') cs
  let date ← dateOf y m d
  let clock ← clockOf h min s n
  if cs.isEmpty then instantOf date clock off else none

/-- Colons and white space, in any number. -/
def looseColon : Reader Unit := fun cs =>
  some ((), cs.dropWhile fun c => c = ':' || Text.isBlank c)

/-- The letters `UTC`, in any case, or an offset. -/
def looseOffset : Reader Int
  | u :: t :: c :: cs =>
    if u.toLower = 'u' && t.toLower = 't' && c.toLower = 'c' then some (0, cs)
    else offset looseColon (u :: t :: c :: cs)
  | cs => offset looseColon cs

/-- **The lenient grammar**, with nothing but white space after it. -/
def lenientInstant (cs : List Char) : Option Instant := do
  let (y, cs) ← year cs
  let (_, cs) ← literal '-' (Text.trimStart cs)
  let (m, cs) ← shortNumber cs
  let (_, cs) ← literal '-' (Text.trimStart cs)
  let (d, cs) ← shortNumber cs
  let (_, cs) ← dateTimeSeparator cs
  let (h, cs) ← shortNumber cs
  let (_, cs) ← literal ':' (Text.trimStart cs)
  let (min, cs) ← shortNumber cs
  let (_, cs) ← literal ':' (Text.trimStart cs)
  let (s, cs) ← shortNumber cs
  let (n, cs) ← fraction cs
  let (off, cs) ← looseOffset (Text.trimStart cs)
  let date ← dateOf y m d
  let clock ← clockOf h min s n
  if (Text.trimStart cs).isEmpty then instantOf date clock off else none

/-- **A date on its own**: the whole text is a date in the casual grammar. -/
def bareDate? (s : String) : Option Date := do
  let (date, rest) ← casualDate (Text.trim s.toList)
  if rest.isEmpty then pure date else none

/-- The date that a whole text spells, without white space taken off its end. -/
def exactDate? (s : String) : Option Date := do
  let (date, rest) ← casualDate s.toList
  if rest.isEmpty then pure date else none

/-- **An instant of a literal or a bound.** The strict grammar is tried first,
then three casual forms, then a bare date, which means its midnight. -/
def instant? (s : String) : Option Instant :=
  let cs := Text.trim s.toList
  strictInstant cs
    <|> casualInstant (literal 'T') casualClock cs
    <|> casualInstant blanks casualClock cs
    <|> casualInstant (literal 'T') casualMinutes cs
    <|> (bareDate? s).map Instant.startOf

/-- **An instant of a dataset.** -/
def recordedInstant? (s : String) : Option Instant :=
  lenientInstant s.toList

end Readership.Calendar

import Readership.Proofs.Calendar.Reading

/-!
# Instants read back

What is written of a proper instant is read as that instant again. Every
number on the way has its full width or is followed by something that is no
digit, so the readers part the text where the writer joined it; a signed year
takes all its digits, and second sixty comes back as the leap second it was
(`Calendar.clockOf_self`).
-/

namespace Readership.Calendar

open Text (Reader literal digitRun fixedNumber StartsWithout digitRun_append)

theorem isBlank_of_isDigit {c : Char} (h : c.isDigit = true) : Text.isBlank c = false := by
  have hlow : 48 ≤ c.toNat := by
    rw [Char.isDigit, Bool.and_eq_true, decide_eq_true_eq] at h
    exact h.1
  have hhigh : c.toNat ≤ 57 := by
    rw [Char.isDigit, Bool.and_eq_true, decide_eq_true_eq, decide_eq_true_eq] at h
    exact h.2
  simp only [Text.isBlank, Bool.or_eq_false_iff, Bool.and_eq_false_iff, beq_eq_false_iff_ne,
    decide_eq_false_iff_not]
  omega

/-- A padded number starts with a digit. -/
theorem exists_padded_eq (width n : Nat) :
    ∃ c cs, Numeral.padded width n = c :: cs ∧ c.isDigit = true := by
  obtain ⟨c, cs, h⟩ := List.exists_cons_of_ne_nil (Numeral.padded_ne_nil width n)
  exact ⟨c, cs, h, Numeral.isDigit_of_mem_padded (h ▸ List.mem_cons_self)⟩

theorem trimStart_padded (width n : Nat) (rest : List Char) :
    Text.trimStart (Numeral.padded width n ++ rest) = Numeral.padded width n ++ rest := by
  obtain ⟨c, cs, h, hc⟩ := exists_padded_eq width n
  rw [h]
  exact Text.trimStart_of_startsWithout (isBlank_of_isDigit hc)

/-- **Two digits read back**, whatever follows them. -/
theorem shortNumber_padded {n : Nat} (h : n < 100) (rest : List Char) :
    shortNumber (Numeral.padded 2 n ++ rest) = some (n, rest) := by
  have hlen : (Numeral.padded 2 n).length = 2 := Numeral.length_padded (by decide) h
  have hrun : digitRun 1 2 (Numeral.padded 2 n ++ rest) = some (Numeral.padded 2 n, rest) :=
    digitRun_append (fun _ => Numeral.isDigit_of_mem_padded) (by omega) (by omega) (.inl hlen)
  rw [shortNumber, trimStart_padded, hrun]
  simp

/-- As many digits as there are, read back. -/
theorem digitRun_padded (width n : Nat) {rest : List Char}
    (hrest : StartsWithout Char.isDigit rest) :
    digitRun 1 (Numeral.padded width n ++ rest).length (Numeral.padded width n ++ rest)
      = some (Numeral.padded width n, rest) := by
  have hpos := List.length_pos_iff.mpr (Numeral.padded_ne_nil width n)
  refine digitRun_append (fun _ => Numeral.isDigit_of_mem_padded) hpos ?_ (.inr hrest)
  rw [List.length_append]
  omega

/-- A year of four digits read back, whatever follows them. -/
theorem year_padded {n : Nat} (h : n < 10 ^ 4) (rest : List Char) :
    year (Numeral.padded 4 n ++ rest) = some ((n : Int), rest) := by
  have hlen : (Numeral.padded 4 n).length = 4 := Numeral.length_padded (by decide) h
  have hrun : digitRun 1 4 (Numeral.padded 4 n ++ rest) = some (Numeral.padded 4 n, rest) :=
    digitRun_append (fun _ => Numeral.isDigit_of_mem_padded) (by omega) (by omega) (.inl hlen)
  obtain ⟨c, cs, hcs, hc⟩ := exists_padded_eq 4 n
  rw [year, trimStart_padded]
  -- a digit is not a sign
  split
  next hminus =>
    rw [hcs] at hminus
    cases hminus
    exact absurd hc (by decide)
  next hplus =>
    rw [hcs] at hplus
    cases hplus
    exact absurd hc (by decide)
  next =>
    rw [hrun]
    simp

/-- A year below zero read back. -/
theorem year_minus (n : Nat) {rest : List Char} (hrest : StartsWithout Char.isDigit rest) :
    year ('-' :: (Numeral.padded 4 n ++ rest)) = some (-(n : Int), rest) := by
  rw [year, Text.trimStart_of_startsWithout (by exact rfl)]
  simp only [digitRun_padded 4 n hrest, bind, Option.bind, Numeral.value_padded]
  rfl

/-- A year of more than four digits read back. -/
theorem year_plus (n : Nat) {rest : List Char} (hrest : StartsWithout Char.isDigit rest) :
    year ('+' :: (Numeral.padded 4 n ++ rest)) = some ((n : Int), rest) := by
  rw [year, Text.trimStart_of_startsWithout (by exact rfl)]
  simp only [digitRun_padded 4 n hrest, bind, Option.bind, Numeral.value_padded]
  rfl

/-- **A year read back**, with a sign or without. -/
theorem year_yearText (y : Int) {rest : List Char} (hrest : StartsWithout Char.isDigit rest) :
    year (Date.yearText y ++ rest) = some (y, rest) := by
  by_cases hplain : 0 ≤ y ∧ y ≤ 9999
  · have htext : Date.yearText y = Numeral.padded 4 y.toNat := by simp [Date.yearText, hplain]
    have hback : (y.toNat : Int) = y := Int.toNat_of_nonneg hplain.1
    rw [htext, year_padded (by omega), hback]
  · by_cases hneg : y < 0
    · have htext : Date.yearText y = '-' :: Numeral.padded 4 y.natAbs := by
        simp [Date.yearText, hplain, hneg]
      have hback : -(y.natAbs : Int) = y := by omega
      rw [htext, List.cons_append, year_minus _ hrest, hback]
    · have htext : Date.yearText y = '+' :: Numeral.padded 4 y.natAbs := by
        simp [Date.yearText, hplain, hneg]
      have hback : (y.natAbs : Int) = y := by omega
      rw [htext, List.cons_append, year_plus _ hrest, hback]

/-- A date is the date with its numbers. -/
theorem dateOf_self {d : Date} (h : d.InRange) : dateOf d.year d.month d.day = some d := by
  have hd : Date.of? d.year d.month d.day = some d :=
    dif_pos ⟨⟨d.month_pos, d.month_le⟩, d.day_pos, d.day_le⟩
  rw [dateOf, hd]
  simp [h]

/-- **A date read back**, whatever follows it. -/
theorem casualDate_chars {d : Date} (h : d.InRange) (rest : List Char) :
    casualDate (d.chars ++ rest) = some (d, rest) := by
  have hchars : d.chars ++ rest = Date.yearText d.year
      ++ '-' :: (Numeral.padded 2 d.month ++ '-' :: (Numeral.padded 2 d.day ++ rest)) := by
    simp [Date.chars, Date.monthText]
  rw [hchars, casualDate]
  rw [year_yearText d.year (by exact rfl)]
  simp only [bind, Option.bind, Text.literal_cons_self, shortNumber_padded d.month_lt,
    shortNumber_padded d.day_lt, dateOf_self h]
  rfl

/-- **What a clock shows is what was shown.** Second sixty is read as the last
second of its minute and a whole second of nanoseconds. -/
theorem clockOf_self {t : Instant} (h : t.Proper) :
    clockOf (t.second / 3600) (t.second / 60 % 60) (t.second % 60 + t.nano / nanosInSecond)
      t.subsecond = some (t.second, t.nano) := by
  have hsecond : t.second < 86400 := t.second_lt
  have hnano : t.nano < 2 * 1000000000 := t.nano_lt
  have hleap : 1000000000 ≤ t.nano → t.second % 60 = 59 := h.leap
  have hunit : nanosInSecond = 1000000000 := rfl
  have hhour : t.second / 3600 ≤ 23 := by omega
  have hminute : t.second / 60 % 60 ≤ 59 := by omega
  rw [Instant.subsecond, hunit]
  by_cases hlast : 1000000000 ≤ t.nano
  · -- in a leap second the clock shows sixty
    have hsixty : t.second % 60 + t.nano / 1000000000 = 60 := by have := hleap hlast; omega
    have hbase : t.second / 3600 * 3600 + t.second / 60 % 60 * 60 + 59 = t.second := by
      have := hleap hlast
      omega
    have hrest : t.nano % 1000000000 + nanosInSecond = t.nano := by omega
    simp only [clockOf, hsixty, hhour, hminute, hbase, hrest]
    rfl
  · have hsame : t.second % 60 + t.nano / 1000000000 = t.second % 60 := by omega
    have hbase : t.second / 3600 * 3600 + t.second / 60 % 60 * 60 + t.second % 60 = t.second := by
      omega
    have hle : t.second % 60 ≤ 60 := by omega
    have hne : t.second % 60 ≠ 60 := by omega
    have hrest : t.nano % 1000000000 = t.nano := by omega
    simp [clockOf, hsame, hhour, hminute, hbase, hle, hne, hrest]

/-- A fraction that is not there. -/
theorem fraction_of_startsWithout {rest : List Char} (h : StartsWithout (· == '.') rest) :
    fraction rest = some (0, rest) := by
  unfold fraction
  split
  · cases h
  · rfl

/-- **A fraction read back**: up to nine decimals are a number of nanoseconds. -/
theorem fraction_padded {width n : Nat} (hpos : 0 < width) (hle : width ≤ 9)
    (hn : n < 10 ^ width) {rest : List Char} (hrest : StartsWithout Char.isDigit rest) :
    fraction ('.' :: (Numeral.padded width n ++ rest)) = some (n * 10 ^ (9 - width), rest) := by
  have hlen := Numeral.length_padded hpos hn
  have htake : (Numeral.padded width n).take 9 = Numeral.padded width n :=
    List.take_of_length_le (by omega)
  rw [fraction, digitRun_padded width n hrest]
  simp only [bind, Option.bind, nanosOf, htake, hlen, Numeral.value_padded]
  rfl

/-- A written clock is three numbers of two digits with colons between them. -/
theorem clockChars_append (t : Instant) (tail : List Char) :
    t.clockChars ++ tail = Numeral.padded 2 (t.second / 3600)
      ++ ':' :: (Numeral.padded 2 (t.second / 60 % 60)
        ++ ':' :: (Numeral.padded 2 (t.second % 60 + t.nano / nanosInSecond) ++ tail)) := by
  simp [Instant.clockChars]

/-- Its numbers have no more digits than that. -/
theorem clock_lt (t : Instant) : t.second / 3600 < 100 ∧ t.second / 60 % 60 < 100
    ∧ t.second % 60 + t.nano / nanosInSecond < 100 := by
  have hsecond : t.second < 86400 := t.second_lt
  have hnano : t.nano < 2 * 1000000000 := t.nano_lt
  have hunit : nanosInSecond = 1000000000 := rfl
  rw [hunit]
  omega

/-- **A clock read back**, with whatever stands for its fraction. -/
theorem casualClock_clockChars {t : Instant} (h : t.Proper) {tail rest : List Char}
    (htail : fraction tail = some (t.subsecond, rest)) :
    casualClock (t.clockChars ++ tail) = some ((t.second, t.nano), rest) := by
  obtain ⟨hhour, hminute, hsecond⟩ := clock_lt t
  rw [clockChars_append, casualClock, shortNumber_padded hhour]
  simp only [bind, Option.bind, Text.literal_cons_self, shortNumber_padded hminute,
    shortNumber_padded hsecond, htail, clockOf_self h]
  rfl

/-- **A clock read for its minutes** leaves the seconds over. -/
theorem casualMinutes_clockChars (t : Instant) (tail : List Char) :
    casualMinutes (t.clockChars ++ tail)
      = (clockOf (t.second / 3600) (t.second / 60 % 60) 0 0).map fun clock =>
          (clock, ':' :: (Numeral.padded 2 (t.second % 60 + t.nano / nanosInSecond) ++ tail)) := by
  obtain ⟨hhour, hminute, -⟩ := clock_lt t
  rw [clockChars_append, casualMinutes, shortNumber_padded hhour]
  simp only [bind, Option.bind, Text.literal_cons_self, shortNumber_padded hminute]
  cases clockOf (t.second / 3600) (t.second / 60 % 60) 0 0 <;> rfl

/-- **An instant read back** from a date, what separates it from a clock, and
the clock. -/
theorem casualInstant_written {separator : Reader Unit} {t : Instant} (h : t.Proper)
    {gap tail : List Char}
    (hgap : separator (gap ++ (t.clockChars ++ tail)) = some ((), t.clockChars ++ tail))
    (htail : fraction tail = some (t.subsecond, [])) :
    casualInstant separator casualClock (t.date.chars ++ (gap ++ (t.clockChars ++ tail)))
      = some t := by
  have hof : Instant.of? t.date t.second t.nano = some t :=
    dif_pos ⟨t.second_lt, t.nano_lt⟩
  rw [casualInstant, casualDate_chars h.inRange]
  simp only [bind, Option.bind, hgap, casualClock_clockChars h htail, List.isEmpty_nil,
    if_true, hof]

/-- A blank before a clock is passed over. -/
theorem blanks_clockChars (t : Instant) (tail : List Char) :
    blanks ([' '] ++ (t.clockChars ++ tail)) = some ((), t.clockChars ++ tail) := by
  have hblank : Text.isBlank ' ' = true := by decide
  have hdrop : Text.trimStart ([' '] ++ (t.clockChars ++ tail))
      = Text.trimStart (t.clockChars ++ tail) := by
    simp [Text.trimStart, hblank]
  rw [blanks, hdrop, clockChars_append, trimStart_padded]

/-- **A whole second read back** from its date and time of day. -/
theorem casualInstant_plainText {t : Instant} (h : t.Proper) (hnano : t.nano = 0) :
    casualInstant blanks casualClock t.plainText.toList = some t := by
  have hsub : t.subsecond = 0 := by rw [Instant.subsecond, hnano]; rfl
  have hread := casualInstant_written h (blanks_clockChars t [])
    (by rw [hsub]; exact fraction_of_startsWithout trivial)
  simpa [Instant.plainText, Instant.plainChars] using hread

/-- **An instant read back** from its text to the nanosecond. -/
theorem casualInstant_fullText {t : Instant} (h : t.Proper) :
    casualInstant blanks casualClock t.fullText.toList = some t := by
  have hlt : t.subsecond < 10 ^ 9 := Nat.mod_lt _ (by decide)
  have hread := casualInstant_written h
    (blanks_clockChars t ('.' :: (Numeral.padded 9 t.subsecond ++ [])))
    (by rw [fraction_padded (by decide) (by decide) hlt (Text.startsWithout_nil _)]; simp)
  simpa [Instant.fullText, Instant.plainChars] using hread

/-! ## The characters of a written instant -/

/-- The characters that dates and times of day are written in. -/
def isWritten (c : Char) : Bool :=
  c.isDigit || ['-', '+', ' ', ':', '.'].contains c

theorem isWritten_of_isDigit {c : Char} (h : c.isDigit = true) : isWritten c = true := by
  simp [isWritten, h]

theorem all_isWritten_padded (width n : Nat) : (Numeral.padded width n).all isWritten = true :=
  List.all_eq_true.mpr fun _ hc => isWritten_of_isDigit (Numeral.isDigit_of_mem_padded hc)

theorem all_isWritten_yearText (y : Int) : (Date.yearText y).all isWritten = true := by
  rw [Date.yearText]
  split
  · exact all_isWritten_padded 4 y.toNat
  · rw [List.all_cons, all_isWritten_padded, Bool.and_true]
    split <;> decide

theorem all_isWritten_plainChars (t : Instant) : t.plainChars.all isWritten = true := by
  have hdash : isWritten '-' = true := by decide
  have hcolon : isWritten ':' = true := by decide
  have hblank : isWritten ' ' = true := by decide
  simp only [Instant.plainChars, Instant.clockChars, Date.chars, Date.monthText,
    List.all_append, List.all_cons, all_isWritten_padded, all_isWritten_yearText, hdash, hcolon,
    hblank, Bool.and_true]

theorem all_isWritten_plainText (t : Instant) : t.plainText.toList.all isWritten = true := by
  rw [Instant.plainText, String.toList_ofList]
  exact all_isWritten_plainChars t

theorem all_isWritten_fullText (t : Instant) : t.fullText.toList.all isWritten = true := by
  have hpoint : isWritten '.' = true := by decide
  rw [Instant.fullText, String.toList_ofList, List.all_append, all_isWritten_plainChars,
    List.all_cons, hpoint, all_isWritten_padded]
  rfl

end Readership.Calendar

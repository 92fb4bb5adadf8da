import Mathlib.Tactic.Ring
import Readership.Proofs.Calendar.Number
import Readership.Proofs.Calendar.Written

/-!
# Timestamps as texts

There are two customs of writing an instant whose year has four digits. The one of
RFC 3339 gives what a clock shows that is some minutes ahead of UTC or behind, and
then by how much (`Calendar.WithOffset`); the other gives date and time of day in UTC
(`Calendar.Plain`). Both may go on with as many decimals of the second as are needed,
or more.

A text of either custom is read as the instant that it spells
(`Calendar.instant?_of_withOffset`, `Calendar.instant?_of_plain`). So a printed instant
is read back if its year has four digits. If it has not, the printed text is no
timestamp at all: the strict grammar has no sign in front of a year, and the casual one
has no offset behind a clock (`Calendar.instant?_offsetText`).
-/

namespace Readership

/-- **What a clock shows** that is `offset` seconds ahead of UTC: the same day, the day
after, or the day before. -/
inductive Instant.Shows (t : Instant) (offset : Int) (shown : Instant) : Prop where
  | sameDay : shown.nano = t.nano → shown.date = t.date →
      (shown.second : Int) = t.second + offset → Shows t offset shown
  | dayAfter : shown.nano = t.nano → shown.date = t.date.succ →
      (shown.second + secondsInDay : Int) = t.second + offset → Shows t offset shown
  | dayBefore : shown.nano = t.nano → shown.date.succ = t.date →
      (shown.second : Int) = t.second + offset + secondsInDay → Shows t offset shown

/-- **Moving to UTC** undoes what a clock is ahead. -/
theorem Instant.Shows.ofLocal?_eq {t shown : Instant} {offset : Int}
    (h : t.Shows offset shown) : ofLocal? shown.date shown.second shown.nano offset = some t := by
  have hday : secondsInDay = 86400 := rfl
  have hsecond := shown.second_lt
  have ht := t.second_lt
  have hof {second : Nat} (hs : second = t.second) : of? t.date second t.nano = some t := by
    rw [hs]
    exact dif_pos ⟨t.second_lt, t.nano_lt⟩
  unfold ofLocal?
  cases h with
  | sameDay hnano hdate hshift =>
    rw [if_neg (by omega), if_pos (by omega), hnano, hdate]
    exact hof (by omega)
  | dayAfter hnano hdate hshift =>
    rw [if_pos (by omega), hnano, hdate, Date.pred_succ]
    exact hof (by omega)
  | dayBefore hnano hdate hshift =>
    rw [if_neg (by omega), if_neg (by omega), hnano, hdate]
    exact hof (by omega)

namespace Numeral

/-- Digits behind digits. -/
theorem value_append (front back : List Char) :
    value (front ++ back) = value front * 10 ^ back.length + value back := by
  have hfrom (start : Nat) (cs : List Char) :
      valueFrom start cs = start * 10 ^ cs.length + value cs := by
    rw [value]
    induction cs generalizing start with
    | nil => simp
    | cons c cs ih =>
      rw [valueFrom_cons, valueFrom_cons, ih, ih (10 * 0 + digitValue c), List.length_cons]
      ring
  rw [value, valueFrom, List.foldl_append, ← valueFrom, ← valueFrom, hfrom]
  rfl

end Numeral

namespace Calendar

open Text (Reader literal digitRun fixedNumber StartsWithout digitRun_append)

/-! ## The two customs -/

/-- **Decimals that spell nanoseconds** exactly: none, or a point and digits, of which
those after the ninth can only be zeros. -/
inductive Decimals : Nat → List Char → Prop where
  | none : Decimals 0 []
  | point {n : Nat} {ds : List Char} : ds ≠ [] → (∀ c ∈ ds, c.isDigit = true) →
    Numeral.value ds * nanosInSecond = n * 10 ^ ds.length → Decimals n ('.' :: ds)

/-- **How far a clock is ahead of UTC**, in seconds, as it is written behind it. -/
inductive OffsetMark : Int → List Char → Prop where
  | zulu : OffsetMark 0 ['Z']
  | smallZulu : OffsetMark 0 ['z']
  | ahead {hours minutes : Nat} : hours ≤ 23 → minutes ≤ 59 →
    OffsetMark (hours * 3600 + minutes * 60 : Nat)
      ('+' :: (Numeral.padded 2 hours ++ ':' :: Numeral.padded 2 minutes))
  | behind {hours minutes : Nat} : hours ≤ 23 → minutes ≤ 59 →
    OffsetMark (-(hours * 3600 + minutes * 60 : Nat))
      ('-' :: (Numeral.padded 2 hours ++ ':' :: Numeral.padded 2 minutes))

/-- **A year of four digits.** -/
def HasFourDigits (year : Int) : Prop :=
  0 ≤ year ∧ year ≤ 9999

/-- **An instant with an offset**, as RFC 3339 has it: the date and the time of day that
a clock shows, and how far it is ahead. -/
inductive WithOffset (t : Instant) : List Char → Prop where
  | mk {shown : Instant} {offset : Int} {separator : Char} {decimals mark : List Char} :
    HasFourDigits shown.date.year → t.Shows offset shown → separator ∈ ['T', 't', ' '] →
    Decimals t.subsecond decimals → OffsetMark offset mark →
      WithOffset t (shown.date.chars ++ separator :: (shown.clockChars ++ (decimals ++ mark)))

/-- **An instant in UTC without an offset**: `YYYY-MM-DD HH:MM:SS`, and decimals. -/
inductive Plain (t : Instant) : List Char → Prop where
  | mk {decimals : List Char} : HasFourDigits t.date.year → Decimals t.subsecond decimals →
    Plain t (t.plainChars ++ decimals)

/-! ## Reading the parts -/

/-- **Exact decimals are read exactly**, however many they are. -/
theorem nanosOf_eq {n : Nat} {ds : List Char} (hdigits : ∀ c ∈ ds, c.isDigit = true)
    (h : Numeral.value ds * nanosInSecond = n * 10 ^ ds.length) : nanosOf ds = n := by
  have hunit : nanosInSecond = 10 ^ 9 := rfl
  show Numeral.value (ds.take 9) * 10 ^ (9 - (ds.take 9).length) = n
  rw [hunit] at h
  rcases Nat.le_total ds.length 9 with hle | hge
  · rw [List.take_of_length_le hle]
    have hpow : (10 : Nat) ^ 9 = 10 ^ (9 - ds.length) * 10 ^ ds.length := by
      rw [← Nat.pow_add, Nat.sub_add_cancel hle]
    rw [hpow, ← Nat.mul_assoc] at h
    exact Nat.eq_of_mul_eq_mul_right (Nat.pow_pos (by decide)) h
  · have hlen : (ds.take 9).length = 9 := List.length_take_of_le hge
    rw [hlen, Nat.sub_self, Nat.pow_zero, Nat.mul_one]
    -- the digits after the ninth are less than one nanosecond, so they spell nothing
    have hrest : Numeral.value (ds.drop 9) < 10 ^ (ds.drop 9).length :=
      Numeral.value_lt fun c hc => hdigits c (List.mem_of_mem_drop hc)
    have hsplit := Numeral.value_append (ds.take 9) (ds.drop 9)
    rw [List.take_append_drop] at hsplit
    have hpow : (10 : Nat) ^ ds.length = 10 ^ (ds.drop 9).length * 10 ^ 9 := by
      rw [← Nat.pow_add, List.length_drop, Nat.sub_add_cancel hge]
    rw [hpow, ← Nat.mul_assoc] at h
    have hvalue := Nat.eq_of_mul_eq_mul_right (by decide) h
    rw [hsplit] at hvalue
    generalize 10 ^ (ds.drop 9).length = p at hvalue hrest
    have hdiv := congrArg (· / p) hvalue
    have hpos : 0 < p := by omega
    simpa [Nat.mul_add_div hpos, Nat.mul_comm _ p, Nat.div_eq_of_lt hrest, hpos] using hdiv

/-- **Decimals read off**, up to something that does not continue them. -/
theorem fraction_of_decimals {n : Nat} {cs rest : List Char} (h : Decimals n cs)
    (hdigit : StartsWithout Char.isDigit rest) (hpoint : StartsWithout (· == '.') rest) :
    fraction (cs ++ rest) = some (n, rest) := by
  cases h with
  | none => exact fraction_of_startsWithout hpoint
  | @point _ ds hne hdigits hvalue =>
    have hrun : digitRun 1 (ds ++ rest).length (ds ++ rest) = some (ds, rest) :=
      digitRun_append hdigits (List.length_pos_iff.mpr hne) (by simp) (.inr hdigit)
    show ((digitRun 1 (ds ++ rest).length (ds ++ rest)).bind fun read =>
      some (nanosOf read.1, read.2)) = _
    rw [hrun, ← nanosOf_eq hdigits hvalue]
    rfl

/-- **A number of full width read off**, whatever follows it. -/
theorem fixedNumber_padded {width n : Nat} (hwidth : 0 < width) (h : n < 10 ^ width)
    (rest : List Char) : fixedNumber width (Numeral.padded width n ++ rest) = some (n, rest) := by
  have hlen := Numeral.length_padded hwidth h
  have hrun : digitRun width width (Numeral.padded width n ++ rest)
      = some (Numeral.padded width n, rest) :=
    digitRun_append (fun _ => Numeral.isDigit_of_mem_padded) hlen.ge hlen.le (.inl hlen)
  rw [fixedNumber, hrun]
  simp

/-- An offset read off. -/
theorem offset_of_offsetMark {o : Int} {mark : List Char} (h : OffsetMark o mark) :
    offset (literal ':') mark = some (o, []) := by
  have hclock {hours minutes : Nat} (hhours : hours ≤ 23) (hminutes : minutes ≤ 59) :
      fixedNumber 2 (Numeral.padded 2 hours ++ ':' :: Numeral.padded 2 minutes)
          = some (hours, ':' :: Numeral.padded 2 minutes) ∧
        fixedNumber 2 (Numeral.padded 2 minutes) = some (minutes, []) := by
    refine ⟨fixedNumber_padded (by decide) (by omega) _, ?_⟩
    have := fixedNumber_padded (by decide) (show minutes < 10 ^ 2 by omega) []
    rwa [List.append_nil] at this
  cases h with
  | zulu => rfl
  | smallZulu => rfl
  | ahead hhours hminutes =>
    obtain ⟨hfirst, hsecond⟩ := hclock hhours hminutes
    simp [offset, offsetSign, hfirst, hsecond, hhours, hminutes]
  | behind hhours hminutes =>
    obtain ⟨hfirst, hsecond⟩ := hclock hhours hminutes
    simp [offset, offsetSign, hfirst, hsecond, hhours, hminutes]

/-- What is written as an offset is whole minutes, less than a day. -/
theorem isOffset_of_offsetMark {o : Int} {mark : List Char} (h : OffsetMark o mark) :
    IsOffset o :=
  yields_offset (literal ':') mark _ (offset_of_offsetMark h)

/-- A year of four digits is within range. -/
theorem inRange_of_hasFourDigits {d : Date} (h : HasFourDigits d.year) : d.InRange := by
  obtain ⟨hlow, hhigh⟩ := h
  constructor <;> omega

/-- A date whose year has four digits, number by number. -/
theorem chars_of_hasFourDigits {d : Date} (h : HasFourDigits d.year) :
    d.chars = Numeral.padded 4 d.year.toNat
      ++ '-' :: (Numeral.padded 2 d.month ++ '-' :: Numeral.padded 2 d.day) := by
  have hyear : Date.yearText d.year = Numeral.padded 4 d.year.toNat := by
    simp [Date.yearText, h.1, h.2]
  simp [Date.chars, Date.monthText, hyear]

/-! ## Reading the whole -/

/-- **The strict grammar up to the offset**: it reads the date, the time of day and the
decimals, and what it makes of them hangs on what follows. -/
theorem strictInstant_eq {shown : Instant} (hyear : HasFourDigits shown.date.year)
    (hproper : shown.Proper) {separator : Char} (hseparator : separator ∈ ['T', 't', ' '])
    {tail rest : List Char} (htail : fraction tail = some (shown.subsecond, rest)) :
    strictInstant (shown.date.chars ++ separator :: (shown.clockChars ++ tail))
      = (offset (literal ':') rest).bind fun (o, cs) =>
          if cs.isEmpty then instantOf shown.date (shown.second, shown.nano) o else none := by
  have hfour : shown.date.year.toNat < 10 ^ 4 := by
    have := hyear.1
    have := hyear.2
    omega
  have hback : (shown.date.year.toNat : Int) = shown.date.year := Int.toNat_of_nonneg hyear.1
  have hsep (cs : List Char) : dateTimeSeparator (separator :: cs) = some ((), cs) := by
    simp only [List.mem_cons, List.not_mem_nil, or_false] at hseparator
    rcases hseparator with rfl | rfl | rfl <;> rfl
  have hchars : shown.date.chars ++ separator :: (shown.clockChars ++ tail)
      = Numeral.padded 4 shown.date.year.toNat ++ '-' :: (Numeral.padded 2 shown.date.month
          ++ '-' :: (Numeral.padded 2 shown.date.day ++ separator ::
            (shown.clockChars ++ tail))) := by
    simp [chars_of_hasFourDigits hyear]
  obtain ⟨hhour, hminute, hsecond⟩ := clock_lt shown
  rw [hchars, clockChars_append, strictInstant]
  simp only [bind, Option.bind, fixedNumber_padded (by decide : 0 < 4) hfour,
    fixedNumber_padded (by decide : 0 < 2) shown.date.month_lt,
    fixedNumber_padded (by decide : 0 < 2) shown.date.day_lt,
    fixedNumber_padded (by decide : 0 < 2) hhour, fixedNumber_padded (by decide : 0 < 2) hminute,
    fixedNumber_padded (by decide : 0 < 2) hsecond, Text.literal_cons_self, hsep, htail, hback,
    dateOf_self hproper.inRange, clockOf_self hproper]

/-- What a clock shows of a proper instant is proper, if its year has four digits. -/
theorem proper_of_shows {t shown : Instant} {o : Int} (h : t.Shows o shown) (ho : IsOffset o)
    (hyear : HasFourDigits shown.date.year) (ht : t.Proper) : shown.Proper := by
  refine ⟨inRange_of_hasFourDigits hyear, fun hleap => ?_⟩
  have hday : secondsInDay = 86400 := rfl
  have hminutes := ho.minutes
  cases h with
  | sameDay hnano _ hshift =>
    have := ht.leap (hnano ▸ hleap)
    omega
  | dayAfter hnano _ hshift =>
    have := ht.leap (hnano ▸ hleap)
    omega
  | dayBefore hnano _ hshift =>
    have := ht.leap (hnano ▸ hleap)
    omega

/-- **An instant with its offset is read** by the strict grammar. -/
theorem strictInstant_of_withOffset {t : Instant} {cs : List Char} (h : WithOffset t cs)
    (ht : t.Proper) : strictInstant cs = some t := by
  obtain ⟨hyear, hshows, hseparator, hdecimals, hmark⟩ := h
  rename_i shown o separator decimals mark
  have hnano : shown.subsecond = t.subsecond := by
    cases hshows <;> simp [Instant.subsecond, *]
  have hdigit : StartsWithout Char.isDigit mark ∧ StartsWithout (· == '.') mark := by
    cases hmark <;> exact ⟨rfl, rfl⟩
  have htail : fraction (decimals ++ mark) = some (shown.subsecond, mark) :=
    hnano ▸ fraction_of_decimals hdecimals hdigit.1 hdigit.2
  have hproper := proper_of_shows hshows (isOffset_of_offsetMark hmark) hyear ht
  rw [strictInstant_eq hyear hproper hseparator htail, offset_of_offsetMark hmark]
  simp [instantOf, hshows.ofLocal?_eq, ht.inRange]

/-- What is written as an offset has no white space in it. -/
theorem ink_of_offsetMark {o : Int} {mark : List Char} (h : OffsetMark o mark) :
    mark ≠ [] ∧ ∀ c ∈ mark, Text.isBlank c = false := by
  have hpadded (n : Nat) : ∀ c ∈ Numeral.padded 2 n, Text.isBlank c = false :=
    fun c hc => isBlank_of_isDigit (Numeral.isDigit_of_mem_padded hc)
  have hcolon : Text.isBlank ':' = false := by decide
  have hplus : Text.isBlank '+' = false := by decide
  have hminus : Text.isBlank '-' = false := by decide
  cases h with
  | zulu => exact ⟨List.cons_ne_nil _ _, List.forall_mem_singleton.mpr (by decide)⟩
  | smallZulu => exact ⟨List.cons_ne_nil _ _, List.forall_mem_singleton.mpr (by decide)⟩
  | ahead | behind =>
    refine ⟨List.cons_ne_nil _ _, ?_⟩
    simp only [List.forall_mem_cons, List.forall_mem_append]
    exact ⟨by assumption, hpadded _, hcolon, hpadded _⟩

/-- A written date begins with a digit or a sign. -/
theorem startsWithout_chars (d : Date) (rest : List Char) :
    StartsWithout Text.isBlank (d.chars ++ rest) := by
  have hyear : ∃ c cs, Date.yearText d.year = c :: cs ∧ Text.isBlank c = false := by
    rw [Date.yearText]
    split
    · obtain ⟨c, cs, h, hc⟩ := exists_padded_eq 4 d.year.toNat
      exact ⟨c, cs, h, isBlank_of_isDigit hc⟩
    · exact ⟨_, _, rfl, by split <;> decide⟩
  obtain ⟨c, cs, hcs, hc⟩ := hyear
  rw [Date.chars, Date.monthText, hcs]
  exact hc

theorem trim_of_withOffset {t : Instant} {cs : List Char} (h : WithOffset t cs) :
    Text.trim cs = cs := by
  obtain ⟨-, -, -, -, hmark⟩ := h
  rename_i shown o separator decimals mark
  obtain ⟨hne, hink⟩ := ink_of_offsetMark hmark
  have hsplit : shown.date.chars ++ separator :: (shown.clockChars ++ (decimals ++ mark))
      = (shown.date.chars ++ separator :: (shown.clockChars ++ decimals)) ++ mark := by simp
  have hstart := startsWithout_chars shown.date
    (separator :: (shown.clockChars ++ (decimals ++ mark)))
  rw [hsplit] at hstart ⊢
  exact Text.trim_append_of_ink hstart hne hink

/-- **An instant with its offset is read back.** -/
theorem instant?_of_withOffset {t : Instant} {s : String} (h : WithOffset t s.toList)
    (ht : t.Proper) : instant? s = some t := by
  rw [instant?, trim_of_withOffset h, strictInstant_of_withOffset h ht]
  rfl

/-- Decimals have no white space in them and end a text. -/
theorem ink_of_decimals {n : Nat} {cs : List Char} (h : Decimals n cs) :
    (∀ c ∈ cs, Text.isBlank c = false) ∧ fraction cs = some (n, []) := by
  have hread : fraction (cs ++ []) = some (n, []) := fraction_of_decimals h trivial trivial
  refine ⟨?_, by simpa using hread⟩
  cases h with
  | none => exact fun c hc => nomatch hc
  | point _ hdigits _ =>
    exact List.forall_mem_cons.mpr ⟨by decide, fun c hc => isBlank_of_isDigit (hdigits c hc)⟩

theorem trim_of_plain {t : Instant} {cs : List Char} (h : Plain t cs) : Text.trim cs = cs := by
  obtain ⟨-, hdecimals⟩ := h
  rename_i decimals
  have hpadded (n : Nat) : ∀ c ∈ Numeral.padded 2 n, Text.isBlank c = false :=
    fun c hc => isBlank_of_isDigit (Numeral.isDigit_of_mem_padded hc)
  have hcolon : Text.isBlank ':' = false := by decide
  have hink : ∀ c ∈ t.clockChars ++ decimals, Text.isBlank c = false := by
    simp only [Instant.clockChars, List.forall_mem_append, List.forall_mem_cons]
    exact ⟨⟨⟨hpadded _, hcolon, hpadded _⟩, hcolon, hpadded _⟩, (ink_of_decimals hdecimals).1⟩
  have hne : t.clockChars ++ decimals ≠ [] := by simp [Instant.clockChars]
  have hsplit : t.plainChars ++ decimals
      = (t.date.chars ++ [' ']) ++ (t.clockChars ++ decimals) := by simp [Instant.plainChars]
  have hstart := startsWithout_chars t.date (' ' :: (t.clockChars ++ decimals))
  rw [hsplit]
  exact Text.trim_append_of_ink (by simpa using hstart) hne hink

/-- **An instant in UTC without an offset is read back.** The strict grammar misses
the offset, and the casual one with a `T` finds a blank. -/
theorem instant?_of_plain {t : Instant} {s : String} (h : Plain t s.toList) (ht : t.Proper) :
    instant? s = some t := by
  rw [instant?, trim_of_plain h]
  generalize s.toList = cs at h
  obtain ⟨hyear, hdecimals⟩ := h
  rename_i decimals
  have htail := (ink_of_decimals hdecimals).2
  have hchars : t.plainChars ++ decimals
      = t.date.chars ++ ([' '] ++ (t.clockChars ++ decimals)) := by simp [Instant.plainChars]
  have hstrict : strictInstant (t.plainChars ++ decimals) = none := by
    rw [hchars, List.singleton_append, strictInstant_eq hyear ht (by simp) htail]
    rfl
  have hletter : casualInstant (literal 'T') casualClock (t.plainChars ++ decimals) = none := by
    rw [hchars, casualInstant, casualDate_chars ht.inRange]
    rfl
  have hblank : casualInstant blanks casualClock (t.plainChars ++ decimals) = some t := by
    rw [hchars]
    exact casualInstant_written ht (blanks_clockChars t decimals) htail
  rw [hstrict, hletter, hblank]
  rfl

/-! ## Printed instants -/

/-- The decimals of a printed instant spell its nanoseconds. -/
theorem decimals_fractionChars (t : Instant) : Decimals t.subsecond t.fractionChars := by
  have hlt : t.subsecond < 1000000000 := Nat.mod_lt _ (by decide)
  have hunit : nanosInSecond = 1000000000 := rfl
  have hpoint {width n : Nat} (hpos : 0 < width) (hn : n < 10 ^ width)
      (hvalue : n * nanosInSecond = t.subsecond * 10 ^ width) :
      Decimals t.subsecond ('.' :: Numeral.padded width n) := by
    refine .point (Numeral.padded_ne_nil width n) (fun c => Numeral.isDigit_of_mem_padded) ?_
    rw [Numeral.value_padded, Numeral.length_padded hpos hn]
    exact hvalue
  rw [Instant.fractionChars]
  split
  next hzero => exact hzero ▸ .none
  split
  next hmilli => exact hpoint (by decide) (by omega) (by rw [hunit]; omega)
  split
  next hmicro => exact hpoint (by decide) (by omega) (by rw [hunit]; omega)
  next => exact hpoint (by decide) (by omega) (by rw [hunit]; omega)

/-- The offset of a printed instant. -/
theorem offsetMark_utc : OffsetMark 0 ['+', '0', '0', ':', '0', '0'] :=
  .ahead (Nat.zero_le 23) (Nat.zero_le 59)

/-- **A printed instant with a year of four digits** is as RFC 3339 has it. -/
theorem withOffset_offsetText {t : Instant} (h : HasFourDigits t.date.year) :
    WithOffset t t.offsetText.toList := by
  have hwritten := WithOffset.mk h (.sameDay rfl rfl (by simp)) (by simp : 'T' ∈ ['T', 't', ' '])
    (decimals_fractionChars t) offsetMark_utc
  simpa [Instant.offsetText, Instant.isoChars] using hwritten

/-- A year that has not four digits is written with a sign. -/
theorem fixedNumber_chars_of_signed {d : Date} (hyear : ¬HasFourDigits d.year)
    (rest : List Char) : fixedNumber 4 (d.chars ++ rest) = none := by
  have hsign : Date.yearText d.year
      = (if d.year < 0 then '-' else '+') :: Numeral.padded 4 d.year.natAbs :=
    if_neg (by simpa [HasFourDigits] using hyear)
  have hdigit : (if d.year < 0 then '-' else '+').isDigit = false := by split <;> decide
  rw [Date.chars, Date.monthText, hsign]
  simp [fixedNumber, digitRun, hdigit]

/-- The parts of a printed instant. -/
theorem toList_offsetText (t : Instant) : t.offsetText.toList = t.date.chars ++ (['T'] ++
    (t.clockChars ++ (t.fractionChars ++ ['+', '0', '0', ':', '0', '0']))) := by
  simp [Instant.offsetText, Instant.isoChars]

/-- Its decimals end where its offset begins. -/
theorem fraction_fractionChars_append (t : Instant) :
    fraction (t.fractionChars ++ ['+', '0', '0', ':', '0', '0'])
      = some (t.subsecond, ['+', '0', '0', ':', '0', '0']) :=
  fraction_of_decimals (decimals_fractionChars t) rfl rfl

/-- It has no white space at its ends. -/
theorem trim_offsetText (t : Instant) : Text.trim t.offsetText.toList = t.offsetText.toList := by
  have hstart := startsWithout_chars t.date (['T'] ++ (t.clockChars
    ++ (t.fractionChars ++ ['+', '0', '0', ':', '0', '0'])))
  rw [← toList_offsetText, Instant.offsetText, String.toList_ofList] at hstart
  rw [Instant.offsetText, String.toList_ofList]
  obtain ⟨hne, hink⟩ := ink_of_offsetMark offsetMark_utc
  exact Text.trim_append_of_ink hstart hne hink

/-- **A printed instant tells which one it is**, whatever its year: the date is read off
its front, and the time of day behind the letter. -/
theorem offsetText_inj {t u : Instant} (ht : t.Proper) (hu : u.Proper)
    (h : t.offsetText = u.offsetText) : t = u := by
  have hchars := congrArg String.toList h
  rw [toList_offsetText, toList_offsetText] at hchars
  have hdates := casualDate_chars ht.inRange
    (['T'] ++ (t.clockChars ++ (t.fractionChars ++ ['+', '0', '0', ':', '0', '0'])))
  rw [hchars, casualDate_chars hu.inRange, Option.some.injEq, Prod.mk.injEq] at hdates
  obtain ⟨hdate, hrest⟩ := hdates
  have hclocks := casualClock_clockChars ht (fraction_fractionChars_append t)
  rw [← List.append_cancel_left hrest, casualClock_clockChars hu (fraction_fractionChars_append u),
    Option.some.injEq, Prod.mk.injEq, Prod.mk.injEq] at hclocks
  obtain ⟨⟨hsecond, hnano⟩, -⟩ := hclocks
  cases t
  cases u
  cases hdate
  cases hsecond
  cases hnano
  rfl

/-- **A printed instant with a signed year is no timestamp.** The strict grammar has no
sign, and every casual reading leaves something over: the offset, a `T`, or the
seconds. -/
theorem instant?_offsetText_of_signed {t : Instant} (ht : t.Proper)
    (hyear : ¬HasFourDigits t.date.year) : instant? t.offsetText = none := by
  have hchars := toList_offsetText t
  have htrim := trim_offsetText t
  have htail := fraction_fractionChars_append t
  have hstrict : strictInstant t.offsetText.toList = none := by
    rw [hchars, strictInstant, fixedNumber_chars_of_signed hyear]
    rfl
  have hletter : casualInstant (literal 'T') casualClock t.offsetText.toList = none := by
    rw [hchars, casualInstant, casualDate_chars ht.inRange]
    simp only [bind, Option.bind, List.singleton_append, Text.literal_cons_self,
      casualClock_clockChars ht htail]
    rfl
  have hblank : casualInstant blanks casualClock t.offsetText.toList = none := by
    rw [hchars, casualInstant, casualDate_chars ht.inRange]
    rfl
  have hminutes : casualInstant (literal 'T') casualMinutes t.offsetText.toList = none := by
    rw [hchars, casualInstant, casualDate_chars ht.inRange]
    simp only [bind, Option.bind, List.singleton_append, Text.literal_cons_self,
      casualMinutes_clockChars]
    -- whether or not there is such a time of day, the seconds are left over
    cases clockOf (t.second / 3600) (t.second / 60 % 60) 0 0 <;> rfl
  have hdate : bareDate? t.offsetText = none := by
    rw [bareDate?, htrim, hchars, casualDate_chars ht.inRange]
    rfl
  rw [instant?, htrim, hstrict, hletter, hblank, hminutes, hdate]
  rfl

/-- **A printed instant is read back** exactly if its year has four digits, and else it
is no timestamp. -/
theorem instant?_offsetText {t : Instant} (ht : t.Proper) [Decidable (HasFourDigits t.date.year)] :
    instant? t.offsetText = if HasFourDigits t.date.year then some t else none := by
  split
  next h => exact instant?_of_withOffset (withOffset_offsetText h) ht
  next h => exact instant?_offsetText_of_signed ht h

end Calendar

end Readership

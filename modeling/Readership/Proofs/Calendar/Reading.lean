import Readership.Calendar.Reader
import Readership.Proofs.Number.Numeral
import Readership.Proofs.Text.Reader

/-!
# The instants that texts spell

Not every date with a second and a fraction is the meaning of a text. Years
are bounded, and the fraction runs beyond a whole second only in the last
second of a minute, because second sixty is the only way to write that. An
instant with these two properties is *proper* (`Instant.Proper`), and every
reader yields proper instants only (`Calendar.proper_of_instant?`,
`Calendar.yields_recordedInstant?`): moving to UTC keeps the second of the minute, as
offsets are whole minutes.
-/

namespace Readership

/-- **An instant that a text can spell.** -/
structure Instant.Proper (t : Instant) : Prop where
  inRange : t.date.InRange
  /-- A leap second ends a minute. -/
  leap : nanosInSecond ≤ t.nano → t.second % 60 = 59

instance (t : Instant) : Decidable t.Proper :=
  decidable_of_iff (t.date.InRange ∧ (nanosInSecond ≤ t.nano → t.second % 60 = 59))
    ⟨fun h => ⟨h.1, h.2⟩, fun h => ⟨h.inRange, h.leap⟩⟩

namespace Calendar

open Text (Reader literal digitRun fixedNumber digitRun_eq_some Yields yields_bind yields_some
  yields_ite)

/-- The reading of a clock has its leap second at the end of a minute. -/
def LeapLast (clock : Nat × Nat) : Prop :=
  nanosInSecond ≤ clock.2 → clock.1 % 60 = 59

/-- **Decimals are less than a second**, however many there are. -/
theorem nanosOf_lt {decimals : List Char} (h : ∀ c ∈ decimals, c.isDigit = true) :
    nanosOf decimals < nanosInSecond := by
  have hshown : ∀ c ∈ decimals.take 9, c.isDigit = true :=
    fun c hc => h c (List.mem_of_mem_take hc)
  have hlen : (decimals.take 9).length ≤ 9 := List.length_take_le _ _
  calc nanosOf decimals
      < 10 ^ (decimals.take 9).length * 10 ^ (9 - (decimals.take 9).length) :=
        Nat.mul_lt_mul_of_pos_right (Numeral.value_lt hshown) (Nat.pow_pos (by decide))
    _ = 10 ^ 9 := by rw [← Nat.pow_add]; congr 1; omega
    _ = nanosInSecond := rfl

theorem yields_fraction (cs : List Char) :
    Yields (fraction cs) fun read => read.1 < nanosInSecond := by
  unfold fraction
  split
  · refine yields_bind fun (run, _) hrun => ?_
    exact yields_some (nanosOf_lt (digitRun_eq_some hrun).1)
  · exact yields_some (Nat.zero_lt_of_ne_zero (by decide))

/-- **A clock has its leap second last**, if its fraction is one. -/
theorem yields_clockOf {hour minute second nano : Nat} (hnano : nano < nanosInSecond) :
    Yields (clockOf hour minute second nano) LeapLast := by
  refine yields_ite fun _ => ?_
  show Yields (if second = 60 then _ else _) LeapLast
  split
  · refine yields_some fun _ => ?_
    show (hour * 3600 + minute * 60 + 59) % 60 = 59
    omega
  · exact yields_some fun hleap => absurd hleap (Nat.not_le.mpr hnano)

theorem yields_casualClock (cs : List Char) :
    Yields (casualClock cs) fun read => LeapLast read.1 := by
  unfold casualClock
  -- hours, minutes and seconds, and the colons between them
  iterate 5 refine yields_bind fun (_, _) _ => ?_
  refine yields_bind fun (n, _) hn => yields_bind fun clock hclock => ?_
  exact yields_some (yields_clockOf (yields_fraction _ _ hn) clock hclock)

theorem yields_casualMinutes (cs : List Char) :
    Yields (casualMinutes cs) fun read => LeapLast read.1 := by
  unfold casualMinutes
  iterate 3 refine yields_bind fun (_, _) _ => ?_
  refine yields_bind fun clock hclock => ?_
  exact yields_some (yields_clockOf (Nat.zero_lt_of_ne_zero (by decide)) clock hclock)

theorem yields_dateOf (year : Int) (month day : Nat) :
    Yields (dateOf year month day) Date.InRange :=
  yields_bind fun _ _ => yields_ite fun hrange => yields_some hrange

theorem yields_casualDate (cs : List Char) :
    Yields (casualDate cs) fun read => read.1.InRange := by
  unfold casualDate
  -- year, month and day, and the dashes between them
  iterate 5 refine yields_bind fun (_, _) _ => ?_
  refine yields_bind fun d hd => ?_
  exact yields_some (yields_dateOf _ _ _ d hd)

/-- An instant made of parts has these parts. -/
theorem yields_of? (d : Date) (second nano : Nat) :
    Yields (Instant.of? d second nano) fun t =>
      t.date = d ∧ t.second = second ∧ t.nano = nano := by
  intro t ht
  unfold Instant.of? at ht
  split at ht
  · cases ht
    exact ⟨rfl, rfl, rfl⟩
  · cases ht

/-- **The casual grammar yields proper instants**, if its clock does. -/
theorem yields_casualInstant {separator : Reader Unit} {clock : Reader (Nat × Nat)}
    (hclock : ∀ cs, Yields (clock cs) fun read => LeapLast read.1) (cs : List Char) :
    Yields (casualInstant separator clock cs) Instant.Proper := by
  unfold casualInstant
  refine yields_bind fun (d, _) hd => yields_bind fun (_, _) _ => ?_
  refine yields_bind fun ((second, nano), _) hread => yields_ite fun _ t ht => ?_
  obtain ⟨hdate, hsecond, hnano⟩ := yields_of? d second nano t ht
  refine ⟨hdate ▸ yields_casualDate _ _ hd, ?_⟩
  rw [hsecond, hnano]
  exact hclock _ _ hread

/-- **What an offset may be**: whole minutes, less than a day either way. -/
structure IsOffset (offset : Int) : Prop where
  minutes : (60 : Int) ∣ offset
  neg_lt : -(secondsInDay : Int) < offset
  lt : offset < secondsInDay

theorem isOffset_zero : IsOffset 0 := by
  constructor <;> decide

theorem offsetSign_eq_some {cs rest : List Char} {sign : Int}
    (h : offsetSign cs = some (sign, rest)) : sign = 1 ∨ sign = -1 := by
  unfold offsetSign at h
  split at h <;> cases h <;> simp

theorem yields_offset (separator : Reader Unit) (cs : List Char) :
    Yields (offset separator cs) fun read => IsOffset read.1 := by
  have hday : secondsInDay = 86400 := rfl
  unfold offset
  split
  · exact yields_some isOffset_zero
  · exact yields_some isOffset_zero
  · refine yields_bind fun (sign, _) hsign => yields_bind fun (hours, _) _ => ?_
    refine yields_bind fun (_, _) _ => yields_bind fun (minutes, _) _ => ?_
    refine yields_ite fun hbounds => yields_some ?_
    simp only [Bool.and_eq_true, decide_eq_true_eq] at hbounds
    rcases offsetSign_eq_some hsign with rfl | rfl <;> constructor <;> omega

/-- **Moving to UTC keeps the second of the minute.** The three cases are the
day before, the day itself and the day after. -/
theorem leap_of_ofLocal? {d : Date} {clock : Nat × Nat} {off : Int} {t : Instant}
    (hclock : LeapLast clock) (hoff : IsOffset off)
    (h : Instant.ofLocal? d clock.1 clock.2 off = some t) :
    nanosInSecond ≤ t.nano → t.second % 60 = 59 := by
  have hday : secondsInDay = 86400 := rfl
  obtain ⟨hminutes, hneg, hlt⟩ := hoff
  intro hleap
  obtain ⟨day, second, hof, hminute⟩ : ∃ day second,
      Instant.of? day second clock.2 = some t ∧ second % 60 = clock.1 % 60 := by
    unfold Instant.ofLocal? at h
    simp only at h
    split at h
    · exact ⟨_, _, h, by omega⟩
    split at h
    · exact ⟨_, _, h, by omega⟩
    · exact ⟨_, _, h, by omega⟩
  obtain ⟨-, hsecond, hnano⟩ := yields_of? _ _ _ t hof
  rw [hsecond, hminute]
  exact hclock (hnano ▸ hleap)

theorem yields_instantOf (d : Date) {clock : Nat × Nat} {off : Int}
    (hclock : LeapLast clock) (hoff : IsOffset off) :
    Yields (instantOf d clock off) Instant.Proper :=
  yields_bind fun _ ht => yields_ite fun hrange =>
    yields_some ⟨hrange, leap_of_ofLocal? hclock hoff ht⟩

/-- **The strict grammar yields proper instants.** -/
theorem yields_strictInstant (cs : List Char) : Yields (strictInstant cs) Instant.Proper := by
  unfold strictInstant
  -- the date, the clock to the second, and the signs between their numbers
  iterate 11 refine yields_bind fun (_, _) _ => ?_
  refine yields_bind fun (n, _) hn => yields_bind fun (off, _) hoff => ?_
  refine yields_bind fun d _ => yields_bind fun clock hclock => yields_ite fun _ => ?_
  exact yields_instantOf d (yields_clockOf (yields_fraction _ _ hn) clock hclock)
    (yields_offset _ _ _ hoff)

theorem yields_looseOffset (cs : List Char) :
    Yields (looseOffset cs) fun read => IsOffset read.1 := by
  unfold looseOffset
  split
  · split
    · exact yields_some isOffset_zero
    · exact yields_offset _ _
  · exact yields_offset _ _

/-- **The lenient grammar yields proper instants.** -/
theorem yields_lenientInstant (cs : List Char) : Yields (lenientInstant cs) Instant.Proper := by
  unfold lenientInstant
  -- the date, the clock to the second, and the signs between their numbers
  iterate 11 refine yields_bind fun (_, _) _ => ?_
  refine yields_bind fun (n, _) hn => yields_bind fun (off, _) hoff => ?_
  refine yields_bind fun d _ => yields_bind fun clock hclock => yields_ite fun _ => ?_
  exact yields_instantOf d (yields_clockOf (yields_fraction _ _ hn) clock hclock)
    (yields_looseOffset _ _ hoff)

/-- **A dataset spells a proper instant.** -/
theorem yields_recordedInstant? (s : String) : Yields (recordedInstant? s) Instant.Proper :=
  yields_lenientInstant _

/-- The first instant of a date in range is proper. -/
theorem proper_startOf {d : Date} (h : d.InRange) : (Instant.startOf d).Proper :=
  ⟨h, fun (hleap : nanosInSecond ≤ 0) => absurd hleap (by decide)⟩

theorem yields_bareDate? (s : String) : Yields (bareDate? s) Date.InRange := by
  unfold bareDate?
  refine yields_bind fun (d, _) hd => yields_ite fun _ => ?_
  exact yields_some (yields_casualDate _ _ hd)

/-- **A literal or a bound spells a proper instant.** -/
theorem proper_of_instant? {s : String} {t : Instant} (h : instant? s = some t) :
    t.Proper := by
  simp only [instant?, Option.orElse_eq_orElse, Option.orElse_eq_or, Option.or_eq_some_iff,
    Option.map_eq_some_iff] at h
  rcases h with h | ⟨-, h | ⟨-, h | ⟨-, h | ⟨-, d, hd, rfl⟩⟩⟩⟩
  · exact yields_strictInstant _ t h
  · exact yields_casualInstant yields_casualClock _ t h
  · exact yields_casualInstant yields_casualClock _ t h
  · exact yields_casualInstant yields_casualMinutes _ t h
  · exact proper_startOf (yields_bareDate? s d hd)

end Calendar

end Readership

import Readership.Proofs.Calendar.Timestamp

/-!
# Bare dates

A date on its own can be spelled in many ways: with white space in front of its numbers,
without leading zeros, with a sign. However it is spelled, the text is in no other
grammar. The casual ones read the same date and find no time of day behind it. The strict
one reads numbers of full width, and what it reads as a year, a month and a day is read
so by the casual date as well, with the same rest (`Calendar.year_of_fixedNumber`,
`Calendar.shortNumber_of_fixedNumber`); it would need a separator in that rest, and there
is nothing.

So it makes no difference whether the bare date is tried first or last: it means its
midnight (`Calendar.instant?_of_bareDate?`).
-/

namespace Readership.Calendar

open Text (Reader literal digitRun fixedNumber Yields yields_bind digitRun_of_le
  exists_digit_of_digitRun)

variable {cs rest run : List Char} {n : Nat} {d : Date} {s : String}

/-! ## Numbers of full width are numbers -/

/-- No white space is lost in front of digits. -/
theorem trimStart_of_digitRun {least most : Nat} (hpos : 0 < least)
    (h : digitRun least most cs = some (run, rest)) : Text.trimStart cs = cs := by
  obtain ⟨c, more, rfl, hc⟩ := exists_digit_of_digitRun hpos h
  exact Text.trimStart_of_startsWithout (isBlank_of_isDigit hc)

/-- **Four digits are a year**, whatever follows them. -/
theorem year_of_fixedNumber (h : fixedNumber 4 cs = some (n, rest)) :
    year cs = some (Int.ofNat n, rest) := by
  obtain ⟨⟨run, back⟩, hrun, hread⟩ := Option.bind_eq_some_iff.mp h
  cases hread
  obtain ⟨c, more, hcs, hc⟩ := exists_digit_of_digitRun (by decide) hrun
  have hshort : digitRun 1 4 cs = some (run, rest) := digitRun_of_le (by decide) hrun
  rw [year, trimStart_of_digitRun (by decide) hrun]
  split
  next =>
    cases hcs
    exact absurd hc (by decide)
  next =>
    cases hcs
    exact absurd hc (by decide)
  next =>
    rw [hshort]
    rfl

/-- **Two digits are a short number**, whatever follows them. -/
theorem shortNumber_of_fixedNumber (h : fixedNumber 2 cs = some (n, rest)) :
    shortNumber cs = some (n, rest) := by
  obtain ⟨⟨run, back⟩, hrun, hread⟩ := Option.bind_eq_some_iff.mp h
  cases hread
  have hshort : digitRun 1 2 cs = some (run, rest) := digitRun_of_le (by decide) hrun
  rw [shortNumber, trimStart_of_digitRun (by decide) hrun, hshort]
  rfl

/-! ## A bare date is nothing else -/

/-- **The strict grammar** needs a separator behind the date. -/
theorem strictInstant_eq_none_of_casualDate (h : casualDate cs = some (d, [])) :
    strictInstant cs = none := by
  have hnever : Yields (strictInstant cs) fun _ => False := by
    unfold strictInstant
    refine yields_bind fun (y, _) hy => yields_bind fun (_, _) hfirst => ?_
    refine yields_bind fun (m, _) hm => yields_bind fun (_, _) hsecond => ?_
    refine yields_bind fun (day, _) hday => yields_bind fun (_, _) hseparator => ?_
    -- the casual date has read the same three numbers, so nothing is left
    rw [casualDate] at h
    simp only [bind, Option.bind, year_of_fixedNumber hy, hfirst, shortNumber_of_fixedNumber hm,
      hsecond, shortNumber_of_fixedNumber hday] at h
    split at h
    next => cases h
    next =>
      cases h
      cases hseparator
  exact Option.eq_none_iff_forall_ne_some.mpr fun t ht => hnever t ht

/-- **The casual grammar of instants** needs a time of day behind the date. -/
theorem casualInstant_eq_none_of_casualDate {separator : Reader Unit} {clock : Reader (Nat × Nat)}
    (hend : ∀ left, separator [] = some ((), left) → clock left = none)
    (h : casualDate cs = some (d, [])) : casualInstant separator clock cs = none := by
  rw [casualInstant, h]
  cases hseparator : separator [] with
  | none => simp [hseparator]
  | some read => simp [hseparator, hend read.2 hseparator]

/-- A bare date is a whole text between white space. -/
theorem casualDate_of_bareDate? (h : bareDate? s = some d) :
    casualDate (Text.trim s.toList) = some (d, []) := by
  obtain ⟨⟨date, left⟩, hread, h⟩ := Option.bind_eq_some_iff.mp h
  simp only [List.isEmpty_iff] at h
  split at h
  next hnothing =>
    cases h
    rw [hread, hnothing]
  next => cases h

/-- **A bare date means its midnight**, because it is in no other grammar. -/
theorem instant?_of_bareDate? (h : bareDate? s = some d) :
    instant? s = some (.startOf d) := by
  have hread := casualDate_of_bareDate? h
  have hletter {clock : Reader (Nat × Nat)} :
      casualInstant (literal 'T') clock (Text.trim s.toList) = none :=
    casualInstant_eq_none_of_casualDate nofun hread
  have hblank : casualInstant blanks casualClock (Text.trim s.toList) = none := by
    refine casualInstant_eq_none_of_casualDate (fun left hleft => ?_) hread
    cases hleft
    rfl
  rw [instant?, strictInstant_eq_none_of_casualDate hread, hletter, hblank, hletter, h]
  rfl

/-- **A printed date is a bare date.** -/
theorem bareDate?_text (h : d.InRange) : bareDate? d.text = some d := by
  have hsplit : d.chars = (d.monthText ++ ['-']) ++ Numeral.padded 2 d.day := by
    simp [Date.chars]
  have hstart := startsWithout_chars d []
  rw [List.append_nil, hsplit] at hstart
  have htrim : Text.trim d.chars = d.chars := by
    rw [hsplit]
    exact Text.trim_append_of_ink hstart (Numeral.padded_ne_nil 2 d.day)
      fun c hc => isBlank_of_isDigit (Numeral.isDigit_of_mem_padded hc)
  have hread := casualDate_chars h []
  rw [List.append_nil] at hread
  rw [bareDate?, Date.text, String.toList_ofList, htrim, hread]
  rfl

end Readership.Calendar

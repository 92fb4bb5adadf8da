import Readership.Proofs.Calendar.BareDate
import Readership.Proofs.Calendar.Number
import Readership.Proofs.Metric.Ranking

/-!
# The ends of a stretch of time

An end is read from a text, goes into the filter as printed text, and is read once more
when the filter is checked. The first reading agrees with that of literals
(`DateBounds.ends_read_as_literals`): both accept the same texts, and they differ in
nothing but the time of day that a bare date means at the end of a stretch.

The second reading gives back what was printed if the year of an end has four digits, and
nothing otherwise. So a stretch is what it was when it was read, or the ranking that asks
for it fails (`DateBounds.conditions_survive`). Texts with a year of more than four digits,
or with an offset that leads out of the year 9999, are accepted at first all the same
(`DateBounds.conditions_not_survive`).

A bare date is its midnight as a start and 23:59:59 as a stop, so bare dates cover their
days from the beginning to the last whole second (`DateBounds.bareDates_cover`). The rest of
that second is of the day as well and outside of the stretch
(`DateBounds.bareDates_not_cover`).
-/

namespace Readership

open Outcome
open Calendar (HasFourDigits bareDate? instant?)

namespace Instant

variable {d : Date} {t : Instant}

/-- **A day begins with its midnight.** -/
theorem startOf_le_iff : startOf d ≤ t ↔ d ≤ t.date := by
  rw [le_iff, Date.le_iff_lt_or_eq]
  show d < t.date ∨ d = t.date ∧ (0 < t.second ∨ 0 = t.second ∧ 0 ≤ t.nano) ↔ _
  have hfirst : 0 < t.second ∨ 0 = t.second ∧ 0 ≤ t.nano := by omega
  rw [and_iff_left hfirst]

/-- **The last whole second of a day** has begun before the day is over. -/
theorem le_endOf_iff :
    t ≤ endOf d ↔ t.date ≤ d ∧ ¬ (t.date = d ∧ t.second = 86399 ∧ 0 < t.nano) := by
  have hsecond : t.second < 86400 := t.second_lt
  rw [le_iff, Date.le_iff_lt_or_eq]
  show t.date < d ∨ t.date = d ∧ (t.second < 86399 ∨ t.second = 86399 ∧ t.nano ≤ 0) ↔ _
  constructor
  · rintro (hlt | ⟨heq, hpart⟩)
    · refine ⟨.inl hlt, fun h => ?_⟩
      rw [h.1, Date.lt_iff_number] at hlt
      exact Int.lt_irrefl _ hlt
    · refine ⟨.inr heq, fun h => ?_⟩
      omega
  · rintro ⟨hlt | heq, hnot⟩
    · exact .inl hlt
    · have hpart : ¬ (t.second = 86399 ∧ 0 < t.nano) := fun h => hnot ⟨heq, h⟩
      exact .inr ⟨heq, by omega⟩

end Instant

namespace DateBounds

variable {b : DateBounds} {s : String} {t : Instant} {d e : Date}

/-! ## Ends as they are read -/

theorem parseEnd_eq_ok_iff {ofDate : Date → Instant} : parseEnd ofDate s = .ok t ↔
    (∃ d, bareDate? s = some d ∧ ofDate d = t) ∨ bareDate? s = none ∧ instant? s = some t := by
  unfold parseEnd
  cases hdate : bareDate? s with
  | some d => simp
  | none => cases hinstant : instant? s <;> simp

/-- A literal of a time is an instant where its text spells one. -/
theorem coerce_str_eq_ok_iff :
    Field.viewedAt.coerce (.str s) = .ok (.instant t) ↔ instant? s = some t := by
  cases hinstant : instant? s <;> simp [Field.coerce, Field.kind, Field.instantLiteral?, hinstant]

/-- **A start is read as a literal is**, since a bare date means its midnight in both. -/
theorem parseStart_eq_ok_iff : parseStart s = .ok t ↔ instant? s = some t := by
  rw [parseStart, parseEnd_eq_ok_iff]
  constructor
  · rintro (⟨d, hdate, rfl⟩ | ⟨-, hinstant⟩)
    · exact Calendar.instant?_of_bareDate? hdate
    · exact hinstant
  · intro hinstant
    cases hdate : bareDate? s with
    | none => exact .inr ⟨rfl, hinstant⟩
    | some d =>
      have hmidnight := Calendar.instant?_of_bareDate? hdate
      exact .inl ⟨d, rfl, Option.some.inj (hmidnight.symm.trans hinstant)⟩

/-- **The stop of a bare date** is the last whole second of its day, where a literal is its
midnight. -/
theorem parseStop_of_bareDate? (h : bareDate? s = some d) :
    parseStop s = .ok (.endOf d) ∧ instant? s = some (.startOf d) :=
  ⟨parseEnd_eq_ok_iff.mpr (.inl ⟨d, h, rfl⟩), Calendar.instant?_of_bareDate? h⟩

theorem parseStop_of_not_bareDate? (h : bareDate? s = none) :
    parseStop s = .ok t ↔ instant? s = some t := by
  rw [parseStop, parseEnd_eq_ok_iff, h]
  simp

/-- **Ends are read as literals are.** A start is the instant that its text is as a literal
of the time of a view. A stop is accepted where a literal is, and is the same instant too,
unless the text is a bare date: then it is 86399 seconds later. -/
theorem ends_read_as_literals (s : String) :
    (∀ t, parseStart s = .ok t ↔ Field.viewedAt.coerce (.str s) = .ok (.instant t)) ∧
      ((∃ u, parseStop s = .ok u) ↔ ∃ t, Field.viewedAt.coerce (.str s) = .ok (.instant t)) ∧
      ∀ u, parseStop s = .ok u ↔ ∃ t, Field.viewedAt.coerce (.str s) = .ok (.instant t) ∧
        if (bareDate? s).isSome then Instant.IsLater 86399 t u else u = t := by
  simp only [coerce_str_eq_ok_iff]
  refine ⟨fun t => parseStart_eq_ok_iff, ?_⟩
  cases hdate : bareDate? s with
  | some d =>
    obtain ⟨hstop, hmidnight⟩ := parseStop_of_bareDate? hdate
    refine ⟨iff_of_true ⟨_, hstop⟩ ⟨_, hmidnight⟩, fun u => ?_⟩
    simp only [hstop, hmidnight, Option.isSome_some, if_true, Except.ok.injEq, Option.some.injEq,
      exists_eq_left']
    exact ⟨fun h => h ▸ Instant.isLater_endOf d, fun h => (Instant.isLater_endOf d).unique h⟩
  | none =>
    simp [parseStop_of_not_bareDate? hdate]

/-! ## Ends as they come back -/

/-- **What becomes of the ends of a stretch** that two texts spell. If the years of both
have four digits, then their conditions are checked to the criteria that hold of the times
between them. A ranking passes the check, and is answered from the tables, exactly if this
is so and the rest of its filter is in order. -/
theorem conditions_survive {start stop : Option String} {b : DateBounds}
    (h : parse start stop = .ok b) :
    ((b.EndsIn fun t => HasFourDigits t.date.year) →
        b.conditions.mapM Condition.check = .ok b.criteria ∧
        ∀ (r : ViewRecord) (t : Instant), r .viewedAt = .instant t →
          (b.criteria.all (·.holds r) = true
            ↔ (∀ u ∈ b.start, u ≤ t) ∧ ∀ u ∈ b.stop, t ≤ u)) ∧
      ((∀ c ∈ b.conditions, ∃ k, c.check = .ok k)
        ↔ b.EndsIn fun t => HasFourDigits t.date.year) ∧
      (∀ (top : TopType) (p : Predicate),
        (∃ s, (Ranking.plan top b p).predicate.check = .ok s)
          ↔ (∃ s, p.check = .ok s) ∧ b.EndsIn fun t => HasFourDigits t.date.year) ∧
      ∀ (tables : Tables) (top : TopType) (document : Option Json),
        (∃ out, (Store.ofTables tables : Store Id).topRanked top start stop document = .ok out)
          ↔ (∃ s, Filter.select document = .ok s) ∧
            b.EndsIn fun t => HasFourDigits t.date.year := by
  have hproper := proper_of_parse h
  refine ⟨fun hyears => ⟨mapM_check_conditions hproper hyears, fun r t => all_holds_criteria⟩,
    exists_check_conditions_iff hproper, fun top p => ?_, fun tables top document => ?_⟩
  · exact Ranking.exists_check_restrict_iff hproper
  · exact Ranking.exists_topRanked_iff h

/-- The leap day of 2024 up to its last hour, which a clock shows that is ahead of UTC. -/
theorem conditions_survive_leapDay :
    ∃ b, parse (some "2024-2-29") (some " 2024-03-01T01:30:00.25+02:30 ") = .ok b ∧
      b.conditions.mapM Condition.check = .ok b.criteria ∧
      ∃ out, (Store.ofTables .empty : Store Id).topRanked .user (some "2024-2-29")
        (some " 2024-03-01T01:30:00.25+02:30 ") none = .ok out := by
  obtain ⟨b, hparse, hstart, hstop⟩ :
      ∃ b, parse (some "2024-2-29") (some " 2024-03-01T01:30:00.25+02:30 ") = .ok b ∧
        b.start.map (·.date.year) = some 2024 ∧ b.stop.map (·.date.year) = some 2024 :=
    ⟨_, rfl, rfl, rfl⟩
  have hyear {o : Option Instant} (ho : o.map (·.date.year) = some 2024) :
      ∀ t ∈ o, HasFourDigits t.date.year := by
    intro t ht
    rw [Option.mem_def.mp ht, Option.map_some, Option.some.injEq] at ho
    rw [ho]
    exact ⟨by decide, by decide⟩
  obtain ⟨hchecked, -, -, hranked⟩ := conditions_survive hparse
  have hyears : b.EndsIn fun t => HasFourDigits t.date.year := ⟨hyear hstart, hyear hstop⟩
  exact ⟨b, hparse, (hchecked hyears).1, (hranked .empty .user none).mpr ⟨⟨_, rfl⟩, hyears⟩⟩

/-- **A stretch that begins beyond the year 9999** is accepted, and its condition is not. -/
theorem conditions_not_survive :
    ¬ ∀ (start stop : Option String) (b : DateBounds), parse start stop = .ok b →
      ∀ c ∈ b.conditions, ∃ k, c.check = .ok k := by
  intro h
  have hparse : parse (some "+10000-01-01") none = .ok ⟨some (.startOf ⟨10000, 1, 1, by decide,
    by decide, by decide, by decide⟩), none⟩ := rfl
  have hyears := (exists_check_conditions_iff (proper_of_parse hparse)).mp (h _ _ _ hparse)
  exact absurd (hyears.1 _ rfl).2 (by decide)

/-! ## Bare dates -/

/-- **Bare dates as bounds** are the first and the last whole second of their days. -/
theorem parse_text (hd : d.InRange) (he : e.InRange) :
    parse (some d.text) (some e.text) = .ok ⟨some (.startOf d), some (.endOf e)⟩ := by
  have hink (d : Date) : Text.isBlankText d.text = false := by
    rw [Text.isBlankText, Date.text, String.toList_ofList, List.all_eq_false]
    exact ⟨'-', by simp [Date.chars], by decide⟩
  have hstart : parseStart d.text = .ok (.startOf d) :=
    parseStart_eq_ok_iff.mpr (Calendar.instant?_of_bareDate? (Calendar.bareDate?_text hd))
  have hstop := (parseStop_of_bareDate? (Calendar.bareDate?_text he)).1
  simp [parse, optionalEnd, hink, hstart, hstop, bind, Except.bind, Except.map, pure, Except.pure]

/-- **The criteria of two bare dates** hold of the times whose day is between them, the rest
of the last second apart. -/
theorem all_holds_criteria_text {r : ViewRecord}
    (htime : r .viewedAt = .instant t) :
    (criteria ⟨some (.startOf d), some (.endOf e)⟩).all (·.holds r) = true
      ↔ (d ≤ t.date ∧ t.date ≤ e) ∧ ¬ (t.date = e ∧ t.second = 86399 ∧ 0 < t.nano) := by
  rw [all_holds_criteria htime, and_assoc, ← Instant.le_endOf_iff, ← Instant.startOf_le_iff]
  simp

/-- The conditions of two bare dates are checked to their criteria. -/
theorem mapM_check_text (hd : HasFourDigits d.year) (he : HasFourDigits e.year) :
    (conditions ⟨some (.startOf d), some (.endOf e)⟩).mapM Condition.check
      = .ok (criteria ⟨some (.startOf d), some (.endOf e)⟩) :=
  mapM_check_conditions
    (endsIn_some (Calendar.proper_startOf (Calendar.inRange_of_hasFourDigits hd))
      (proper_endOf (Calendar.inRange_of_hasFourDigits he)))
    (endsIn_some hd he)

/-- **Bare dates cover their days up to the last whole second.** The ends of a stretch that
is given by two dates are checked to criteria that hold of the times whose day is not
before the first date and not after the last, the rest of its last second apart. -/
theorem bareDates_cover {d e : Date} (hd : HasFourDigits d.year) (he : HasFourDigits e.year) :
    ∃ b ks, parse (some d.text) (some e.text) = .ok b ∧
      b.conditions.mapM Condition.check = .ok ks ∧
      ∀ (r : ViewRecord) (t : Instant), r .viewedAt = .instant t →
        (ks.all (·.holds r) = true
          ↔ (d ≤ Bucket.day.truncate t ∧ Bucket.day.truncate t ≤ e) ∧
            ¬ (Bucket.day.truncate t = e ∧ t.second = 86399 ∧ 0 < t.nano)) :=
  ⟨_, _, parse_text (Calendar.inRange_of_hasFourDigits hd) (Calendar.inRange_of_hasFourDigits he),
    mapM_check_text hd he, fun _ _ => all_holds_criteria_text⟩

/-- The leap day of 2024 alone. -/
theorem bareDates_cover_leapDay :
    ∃ b ks, parse (some "2024-02-29") (some "2024-02-29") = .ok b ∧
      b.conditions.mapM Condition.check = .ok ks ∧
      ∀ (r : ViewRecord), r .viewedAt
          = .instant ⟨⟨2024, 2, 29, by decide, by decide, by decide, by decide⟩, 86398, 999999999,
            by decide, by decide⟩ →
        ks.all (·.holds r) = true := by
  obtain ⟨b, ks, hparse, hks, hholds⟩ :=
    @bareDates_cover ⟨2024, 2, 29, by decide, by decide, by decide, by decide⟩
      ⟨2024, 2, 29, by decide, by decide, by decide, by decide⟩ ⟨by decide, by decide⟩
      ⟨by decide, by decide⟩
  exact ⟨b, ks, hparse, hks, fun r htime => (hholds r _ htime).mpr (by decide)⟩

/-- **Bare dates do not cover the whole of their days**: half a second before midnight is
after 23:59:59. -/
theorem bareDates_not_cover :
    ¬ ∀ d e : Date, HasFourDigits d.year → HasFourDigits e.year → d ≤ e →
      ∃ b ks, parse (some d.text) (some e.text) = .ok b ∧
        b.conditions.mapM Condition.check = .ok ks ∧
        ∀ (r : ViewRecord) (t : Instant), r .viewedAt = .instant t →
          (ks.all (·.holds r) = true
            ↔ d ≤ Bucket.day.truncate t ∧ Bucket.day.truncate t ≤ e) := by
  intro h
  obtain ⟨day, hday⟩ : ∃ d : Date, d = ⟨2024, 1, 1, by decide, by decide, by decide, by decide⟩ :=
    ⟨_, rfl⟩
  have hyear : HasFourDigits day.year := by rw [hday]; exact ⟨by decide, by decide⟩
  have hself : day ≤ day := Date.le_iff_lt_or_eq.mpr (.inr rfl)
  obtain ⟨b, ks, hparse, hks, hholds⟩ := h day day hyear hyear hself
  have hrange := Calendar.inRange_of_hasFourDigits hyear
  obtain rfl := Except.ok.inj (hparse.symm.trans (parse_text hrange hrange))
  obtain rfl := Except.ok.inj (hks.symm.trans (mapM_check_text hyear hyear))
  have hlate := hholds (fun _ => .instant ⟨day, 86399, 500000000, by decide, by decide⟩) _ rfl
  rw [all_holds_criteria_text rfl] at hlate
  exact (hlate.mpr ⟨hself, hself⟩).2 ⟨rfl, rfl, (by decide : 0 < 500000000)⟩

end DateBounds

end Readership

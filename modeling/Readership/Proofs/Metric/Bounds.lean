import Readership.Metric.Bounds
import Readership.Proofs.Calendar.Timestamp
import Readership.Proofs.Filter.Truth

/-!
# What date bounds let through

Bounds restrict a ranking through two conditions of its filter, which name their
instants by printed texts. What is printed has to be read back when the conditions are
checked, so bounds are as good as their instants exactly if the years of their ends have
four digits (`DateBounds.exists_check_conditions_iff`); other ends are refused. Where
the conditions pass the check, a view passes them if and only if its time is not before
the start and not after the stop (`DateBounds.all_passes_conditions`).
-/

namespace Readership

namespace Condition

open Outcome

/-- Conditions are fulfilled together where the criteria that they are checked to hold. -/
theorem all_passes_of_mapM_check {cs : List Condition} {ks : List Criterion}
    (h : cs.mapM check = .ok ks) (r : ViewRecord) : cs.all (passes r) = ks.all (·.holds r) := by
  induction mapM_eq_ok.mp h with
  | nil => rfl
  | @cons c k cs ks hc hrest ih =>
    rw [List.all_cons, List.all_cons, ih (mapM_eq_ok.mpr hrest), passes, hc]

end Condition

namespace DateBounds

open Outcome
open Calendar (HasFourDigits)

/-- **Whether an instant lies within bounds**: not before the start, not after the
stop. -/
def contains (b : DateBounds) (t : Instant) : Bool :=
  b.start.all (t.compare · != .lt) && b.stop.all (t.compare · != .gt)

@[simp] theorem contains_always (t : Instant) : always.contains t = true := rfl

theorem contains_iff {b : DateBounds} {t : Instant} :
    b.contains t = true ↔ (∀ u ∈ b.start, u ≤ t) ∧ ∀ u ∈ b.stop, t ≤ u := by
  simp only [contains, Bool.and_eq_true, Option.all_eq_true, bne_iff_ne,
    Instant.compare_ne_lt_iff, Instant.compare_ne_gt_iff, Option.mem_def]

/-- Bounds whose ends have a property. -/
def EndsIn (P : Instant → Prop) (b : DateBounds) : Prop :=
  (∀ t ∈ b.start, P t) ∧ ∀ t ∈ b.stop, P t

/-- Bounds with two ends have a property where both have it. -/
theorem endsIn_some {P : Instant → Prop} {t u : Instant} (ht : P t) (hu : P u) :
    EndsIn P ⟨some t, some u⟩ :=
  ⟨fun _ hmem => Option.mem_some_iff.mp hmem ▸ ht, fun _ hmem => Option.mem_some_iff.mp hmem ▸ hu⟩

/-! ## Ends that texts spell -/

/-- The last second of a date in range is proper. -/
theorem proper_endOf {d : Date} (h : d.InRange) : (Instant.endOf d).Proper :=
  ⟨h, fun (hleap : nanosInSecond ≤ 0) => absurd hleap (by decide)⟩

theorem proper_of_parseEnd {ofDate : Date → Instant} {s : String} {t : Instant}
    (hof : ∀ {d : Date}, d.InRange → (ofDate d).Proper) (h : parseEnd ofDate s = .ok t) :
    t.Proper := by
  unfold parseEnd at h
  split at h
  next d hd =>
    cases h
    exact hof (Calendar.yields_bareDate? s d hd)
  next =>
    split at h
    next u hu =>
      cases h
      exact Calendar.proper_of_instant? hu
    next => cases h

theorem proper_of_optionalEnd {parse : String → Except Fault Instant} {s : Option String}
    {o : Option Instant} (hparse : ∀ {s : String} {t : Instant}, parse s = .ok t → t.Proper)
    (h : optionalEnd parse s = .ok o) : ∀ t ∈ o, t.Proper := by
  cases s with
  | none =>
    cases h
    exact fun t ht => nomatch ht
  | some s =>
    rw [optionalEnd] at h
    split at h
    · cases h
      exact fun t ht => nomatch ht
    · obtain ⟨t, ht, rfl⟩ := map_eq_ok.mp h
      exact fun u hu => Option.some.inj hu ▸ hparse ht

/-- **Bounds that texts spell have proper ends.** -/
theorem proper_of_parse {start stop : Option String} {b : DateBounds}
    (h : parse start stop = .ok b) : b.EndsIn Instant.Proper := by
  obtain ⟨first, hfirst, h⟩ := bind_eq_ok.mp h
  obtain ⟨last, hlast, h⟩ := bind_eq_ok.mp h
  cases h
  exact ⟨proper_of_optionalEnd (proper_of_parseEnd Calendar.proper_startOf) hfirst,
    proper_of_optionalEnd (proper_of_parseEnd proper_endOf) hlast⟩

/-! ## Bounds as conditions -/

/-- **A printed end is a literal** if its year has four digits, and then it is that end. -/
theorem coerce_offsetText_eq_ok_iff {t : Instant} (ht : t.Proper) {v : FieldValue} :
    Field.viewedAt.coerce (.str t.offsetText) = .ok v
      ↔ HasFourDigits t.date.year ∧ v = .instant t := by
  by_cases hyear : HasFourDigits t.date.year
  · have hread := Calendar.instant?_of_withOffset (Calendar.withOffset_offsetText hyear) ht
    simp [Field.coerce, Field.kind, Field.instantLiteral?, hread, hyear, eq_comm]
  · have hread := Calendar.instant?_offsetText_of_signed ht hyear
    simp [Field.coerce, Field.kind, Field.instantLiteral?, hread, hyear]

/-- The literal of a condition of bounds has a place in an order. -/
theorem ordered_condition_eq_ok_iff {op : Operator} {t : Instant} (ht : t.Proper)
    {v : FieldValue} : (condition op t).ordered .viewedAt = .ok v
      ↔ HasFourDigits t.date.year ∧ v = .instant t := by
  rw [Condition.ordered, bind_eq_ok]
  constructor
  · rintro ⟨w, hw, h⟩
    obtain ⟨hyear, rfl⟩ := (coerce_offsetText_eq_ok_iff ht).mp hw
    cases h
    exact ⟨hyear, rfl⟩
  · rintro ⟨hyear, rfl⟩
    exact ⟨_, (coerce_offsetText_eq_ok_iff ht).mpr ⟨hyear, rfl⟩, rfl⟩

/-- **What a condition of bounds becomes** when it is checked, if its operator makes a
test that orders. -/
theorem check_condition_eq_ok_iff {op : Operator} {test : FieldValue → Test} {t : Instant}
    (hop : (condition op t).testOf .viewedAt = ((condition op t).ordered .viewedAt).map test)
    (ht : t.Proper) {k : Criterion} : (condition op t).check = .ok k
      ↔ HasFourDigits t.date.year ∧ k = ⟨.viewedAt, test (.instant t)⟩ := by
  constructor
  · intro h
    obtain ⟨f, hf, h⟩ := bind_eq_ok.mp h
    obtain rfl : .viewedAt = f := Except.ok.inj ((Field.parse_path .viewedAt).symm.trans hf)
    obtain ⟨made, hmade, h⟩ := bind_eq_ok.mp h
    obtain ⟨v, hv, rfl⟩ := map_eq_ok.mp (hop ▸ hmade)
    obtain ⟨hyear, rfl⟩ := (ordered_condition_eq_ok_iff ht).mp hv
    cases h
    exact ⟨hyear, rfl⟩
  · rintro ⟨hyear, rfl⟩
    have hordered : (condition op t).ordered .viewedAt = .ok (.instant t) :=
      (ordered_condition_eq_ok_iff ht).mpr ⟨hyear, rfl⟩
    have htest : (condition op t).testOf .viewedAt = .ok (test (.instant t)) := by
      rw [hop, hordered]
      rfl
    exact Condition.check_of_testOf (Field.parse_path .viewedAt) htest

theorem check_start_eq_ok_iff {t : Instant} (ht : t.Proper) {k : Criterion} :
    (condition .gte t).check = .ok k
      ↔ HasFourDigits t.date.year ∧ k = ⟨.viewedAt, .gte (.instant t)⟩ := by
  have hop : (condition .gte t).testOf .viewedAt
      = ((condition .gte t).ordered .viewedAt).map .gte := by
    rw [Condition.testOf]
    rfl
  exact check_condition_eq_ok_iff hop ht

theorem check_stop_eq_ok_iff {t : Instant} (ht : t.Proper) {k : Criterion} :
    (condition .lte t).check = .ok k
      ↔ HasFourDigits t.date.year ∧ k = ⟨.viewedAt, .lte (.instant t)⟩ := by
  have hop : (condition .lte t).testOf .viewedAt
      = ((condition .lte t).ordered .viewedAt).map .lte := by
    rw [Condition.testOf]
    rfl
  exact check_condition_eq_ok_iff hop ht

/-- Going through the conditions of bounds is going through the ends. -/
theorem forall_mem_conditions {P : Condition → Prop} {b : DateBounds} :
    (∀ c ∈ b.conditions, P c)
      ↔ (∀ t ∈ b.start, P (condition .gte t)) ∧ ∀ t ∈ b.stop, P (condition .lte t) := by
  obtain ⟨start, stop⟩ := b
  cases start <;> cases stop <;> simp [conditions]

/-- **The conditions of bounds pass the check** exactly if the years of both ends have
four digits. -/
theorem exists_check_conditions_iff {b : DateBounds} (hb : b.EndsIn Instant.Proper) :
    (∀ c ∈ b.conditions, ∃ k, c.check = .ok k)
      ↔ b.EndsIn fun t => HasFourDigits t.date.year := by
  rw [forall_mem_conditions]
  refine and_congr (forall₂_congr fun t ht => ?_) (forall₂_congr fun t ht => ?_)
  · simp [check_start_eq_ok_iff (hb.1 t ht)]
  · simp [check_stop_eq_ok_iff (hb.2 t ht)]

/-- **Bounds as criteria**: the time of a view is not before the start and not after the
stop. -/
def criteria (b : DateBounds) : List Criterion :=
  (b.start.map fun t => ⟨.viewedAt, .gte (.instant t)⟩).toList
    ++ (b.stop.map fun t => ⟨.viewedAt, .lte (.instant t)⟩).toList

/-- **Conditions of bounds are checked to their criteria**, if the years of both ends have
four digits. -/
theorem mapM_check_conditions {b : DateBounds} (hb : b.EndsIn Instant.Proper)
    (hyears : b.EndsIn fun t => HasFourDigits t.date.year) :
    b.conditions.mapM Condition.check = .ok b.criteria := by
  have hstart : ∀ t ∈ b.start,
      (condition .gte t).check = .ok ⟨.viewedAt, .gte (.instant t)⟩ := fun t ht =>
    (check_start_eq_ok_iff (hb.1 t ht)).mpr ⟨hyears.1 t ht, rfl⟩
  have hstop : ∀ t ∈ b.stop,
      (condition .lte t).check = .ok ⟨.viewedAt, .lte (.instant t)⟩ := fun t ht =>
    (check_stop_eq_ok_iff (hb.2 t ht)).mpr ⟨hyears.2 t ht, rfl⟩
  rw [mapM_eq_ok]
  obtain ⟨start, stop⟩ := b
  cases start <;> cases stop <;> simp_all [conditions, criteria]

/-- **The criteria of bounds hold** of a time that is within them. -/
theorem all_holds_criteria {b : DateBounds} {r : ViewRecord} {t : Instant}
    (htime : r .viewedAt = .instant t) :
    b.criteria.all (·.holds r) = true ↔ (∀ u ∈ b.start, u ≤ t) ∧ ∀ u ∈ b.stop, t ≤ u := by
  have hstart (u : Instant) : Criterion.holds ⟨.viewedAt, .gte (.instant u)⟩ r = true ↔ u ≤ t := by
    simp [Criterion.holds, htime, Test.holds, Test.related, FieldValue.compare?,
      ← Instant.compare_ne_lt_iff]
  have hstop (u : Instant) : Criterion.holds ⟨.viewedAt, .lte (.instant u)⟩ r = true ↔ t ≤ u := by
    simp [Criterion.holds, htime, Test.holds, Test.related, FieldValue.compare?,
      ← Instant.compare_ne_gt_iff]
  obtain ⟨start, stop⟩ := b
  cases start <;> cases stop <;> simp [criteria, hstart, hstop]

/-- **A view passes the conditions of bounds** if its time lies within them. -/
theorem all_passes_conditions {b : DateBounds} (hb : b.EndsIn Instant.Proper)
    (hyears : b.EndsIn fun t => HasFourDigits t.date.year) {r : ViewRecord} {t : Instant}
    (htime : r .viewedAt = .instant t) :
    b.conditions.all (Condition.passes r) = b.contains t := by
  rw [Condition.all_passes_of_mapM_check (mapM_check_conditions hb hyears), Bool.eq_iff_iff,
    all_holds_criteria htime, contains_iff]

end DateBounds

end Readership

import Readership.Proofs.Archive.Answer
import Readership.Proofs.Archive.Loading
import Readership.Proofs.Calendar.Range
import Readership.Proofs.Metric.Ends

/-!
# Weeks that begin before the calendar

The tables look for the bucket of every view that a plan selects, and break off at the
first that has none. Whatever a dataset spells is a time within the calendar
(`Tables.inRange_of_ofText`), and there only the views before the first Monday have no
week. A plan by weeks that selects one of them breaks off, and no other plan does: it is
answered as if every week had a beginning (`Tables.aggregate?_eq_some_iff`), and so is
every metric (`Metric.run_ofTables?`).

So the arithmetic of dates leads out of the calendar in one place
(`Tables.aggregate_breaksOff_iff`), and a dataset of one view is enough to get there
(`Tables.aggregate_breaksOff_firstDay`).
-/

namespace Readership

open Outcome
open Calendar (bareDate?)
open Text (Yields yields_bind yields_some yields_none yields_mapM)

/-! ## The times of a dataset -/

theorem View.yields_ofWritten? (w : Json.Written) :
    Yields (View.ofWritten? w) fun v => v.time.Proper := by
  unfold View.ofWritten?
  refine yields_bind fun fields _ => ?_
  split
  · -- the two ids, the viewer, the country, and the text of the time
    iterate 5 refine yields_bind fun _ _ => ?_
    exact yields_bind fun time htime =>
      yields_some (Calendar.yields_recordedInstant? _ time htime)
  · exact yields_none

theorem yields_entries? {α : Type} {readOne? : Json.Written → Option α} {P : α → Prop}
    (h : ∀ w, Yields (readOne? w) P) (w : Option Json.Written) :
    Yields (entries? readOne? w) fun entries => ∀ a ∈ entries, P a := by
  unfold entries?
  split
  · exact yields_some nofun
  · unfold Json.Written.list?
    split
    · exact yields_mapM h _
    · exact yields_none

/-- **A dataset spells proper times only.** -/
theorem Dataset.yields_ofText? (s : String) :
    Yields (Dataset.ofText? s) fun d => ∀ v ∈ d.views, v.time.Proper := by
  refine yields_bind fun w _ => ?_
  unfold Dataset.ofWritten?
  refine yields_bind fun fields _ => ?_
  split
  · -- countries, users and blogs come before the views
    iterate 3 refine yields_bind fun _ _ => ?_
    exact yields_bind fun views hviews =>
      yields_some (yields_entries? View.yields_ofWritten? _ views hviews)
  · exact yields_none

namespace Tables

variable {t : Tables} {plan : Plan} {s : Selection}

/-- **The views of a loaded dataset are within the calendar.** -/
theorem inRange_of_ofText {text : String} (h : ofText text = .ok t) :
    ∀ v ∈ t.views, v.time.date.InRange := by
  unfold ofText at h
  split at h
  next => cases h
  next d hd =>
    split at h
    next t' ht =>
      cases h
      obtain ⟨-, rfl⟩ := Dataset.ofDataset_eq_ok_iff.mp ht
      exact fun v hv => (Dataset.yields_ofText? text d hd v hv).inRange
    next => cases h

/-- What a selection selects are views of the tables. -/
theorem mem_views_of_mem_matching {v : View × ViewRecord} (h : v ∈ t.matching s) :
    v.1 ∈ t.views := by
  obtain ⟨w, hw, hrecord⟩ := List.mem_filterMap.mp (List.mem_filter.mp h).1
  obtain ⟨b, -, rfl⟩ := Option.map_eq_some_iff.mp hrecord
  exact hw

end Tables

/-! ## Breaking off -/

/-- **The views at which a plan breaks off.** -/
def Plan.BreaksOff (plan : Plan) (v : View × ViewRecord) : Prop :=
  ∃ bucket ∈ plan.bucket, bucket.LacksStart v.1.time.date

instance (plan : Plan) (v : View × ViewRecord) : Decidable (plan.BreaksOff v) :=
  inferInstanceAs (Decidable (∃ bucket ∈ plan.bucket, _))

section Views

variable {plan : Plan} {v : View × ViewRecord} {vs : List (View × ViewRecord)}

theorem Group.keyOf?_eq (h : v.1.time.date.InRange) :
    keyOf? plan v = if plan.BreaksOff v then none else some (keyOf plan v) := by
  obtain ⟨p, bucket, keys, aggregates, order, limit⟩ := plan
  cases bucket with
  | none => simp [keyOf?, keyOf, Plan.BreaksOff]
  | some bucket =>
    simp only [keyOf?, keyOf, Plan.BreaksOff, bucket.truncate?_eq h]
    by_cases hlacks : bucket.LacksStart v.1.time.date <;> simp [hlacks]

/-- **One more view** is added to its group, unless the plan breaks off at it. -/
theorem Tables.addView?_eq (h : v.1.time.date.InRange) (gs : List Group) :
    addView? plan gs v = if plan.BreaksOff v then none
      else some (Group.insert plan (Group.keyOf plan v) v.2 gs) := by
  rw [addView?, Group.keyOf?_eq h]
  split <;> rfl

/-- **The pass over some views** breaks off if the plan does at one of them, and is the pass
that takes no notice of the calendar otherwise. -/
theorem Tables.foldlM_addView? (h : ∀ v ∈ vs, v.1.time.date.InRange) (gs : List Group) :
    vs.foldlM (addView? plan) gs = if ∃ v ∈ vs, plan.BreaksOff v then none
      else some (vs.foldl (fun gs v => Group.insert plan (Group.keyOf plan v) v.2 gs) gs) := by
  induction vs generalizing gs with
  | nil => rfl
  | cons v vs ih =>
    obtain ⟨hv, hvs⟩ := List.forall_mem_cons.mp h
    rw [List.foldlM_cons, addView?_eq hv, List.foldl_cons]
    by_cases hfirst : plan.BreaksOff v
    · rw [if_pos hfirst, if_pos ⟨v, List.mem_cons_self, hfirst⟩]
      rfl
    · have hrest : (∃ w ∈ v :: vs, plan.BreaksOff w) ↔ ∃ w ∈ vs, plan.BreaksOff w := by
        rw [List.exists_mem_cons_iff, or_iff_right hfirst]
      rw [if_neg hfirst, Option.bind_eq_bind, Option.bind_some, ih hvs]
      exact if_congr hrest.symm rfl rfl

end Views

namespace Tables

variable {t : Tables} {plan : Plan} {s : Selection}

theorem groups?_eq (ht : ∀ v ∈ t.views, v.time.date.InRange) (plan : Plan) (s : Selection) :
    t.groups? plan s
      = if ∃ v ∈ t.matching s, plan.BreaksOff v then none else some (t.groups plan s) :=
  foldlM_addView? (fun _ hv => ht _ (mem_views_of_mem_matching hv)) []

/-- **A plan breaks off** where its predicate passes the check and selects a view at which it
does. -/
theorem aggregate?_eq_none_iff (ht : ∀ v ∈ t.views, v.time.date.InRange) :
    t.aggregate? plan = none
      ↔ ∃ s, plan.predicate.check = .ok s ∧ ∃ v ∈ t.matching s, plan.BreaksOff v := by
  unfold aggregate?
  cases hcheck : plan.predicate.check with
  | error fault => simp
  | ok s => simp [groups?_eq ht]

/-- **A plan that does not break off is answered** as if every bucket had a first day. -/
theorem aggregate?_eq_some_iff (ht : ∀ v ∈ t.views, v.time.date.InRange)
    {answer : Except Fault (List Row)} :
    t.aggregate? plan = some answer ↔ t.aggregate? plan ≠ none ∧ answer = t.aggregate plan := by
  unfold aggregate? aggregate
  cases hcheck : plan.predicate.check with
  | error fault => simp [Except.map, eq_comm]
  | ok s =>
    simp only [groups?_eq ht]
    by_cases hbreaks : ∃ v ∈ t.matching s, plan.BreaksOff v
    · simp [if_pos hbreaks]
    · simp [if_neg hbreaks, Except.map, eq_comm]

end Tables

/-- **A metric is answered as if every week had a beginning**, unless its plan breaks off. -/
theorem Metric.run_ofTables? {metric : Metric} {t : Tables} {document : Option Json}
    (ht : ∀ v ∈ t.views, v.time.date.InRange) {answer : Except Fault (List MetricRow)} :
    (metric.run (.ofTables? t : Store (OptionT Id)) document).run = some answer ↔
      (∀ c, Filter.compile document = .ok c → ∀ s, c.predicate.check = .ok s →
        t.aggregate? (metric.plan c.predicate) ≠ none) ∧
      answer = metric.run (.ofTables t : Store Id) document := by
  unfold Metric.run
  cases hcompile : Filter.compile document with
  | error fault =>
    show some (.error fault) = some answer ↔ _ ∧ answer = .error fault
    simp [eq_comm]
  | ok c =>
    simp only [Except.ok.injEq, forall_eq']
    cases hcheck : c.predicate.check with
    | error fault =>
      show some (.error fault) = some answer ↔ _ ∧ answer = .error fault
      simp [eq_comm]
    | ok s =>
      simp only [Except.ok.injEq, forall_eq']
      show (t.aggregate? (metric.plan c.predicate)).map (Except.map metric.shape) = some answer
        ↔ _ ∧ answer = (t.aggregate (metric.plan c.predicate)).map metric.shape
      rw [Option.map_eq_some_iff]
      simp only [Tables.aggregate?_eq_some_iff ht]
      constructor
      · rintro ⟨rows, ⟨hanswered, rfl⟩, rfl⟩
        exact ⟨hanswered, rfl⟩
      · rintro ⟨hanswered, rfl⟩
        exact ⟨_, ⟨hanswered, rfl⟩, rfl⟩

/-! ## What leads out of the calendar -/

namespace Tables

/-- **Where the arithmetic of dates leads out of the calendar.** The times of a loaded
dataset are within it. A plan breaks off exactly if it asks for weeks and selects a view
before the first Monday, and is answered as if every bucket had a first day otherwise. The
first day of any other bucket is in the calendar, for whatever time is. The end of a day
is in the calendar too, for every date that is accepted as the end of a stretch. -/
theorem aggregate_breaksOff_iff {text : String} {t : Tables} (ht : ofText text = .ok t)
    (plan : Plan) :
    ((∀ v ∈ t.views, v.time.date.InRange) ∧
      (t.aggregate? plan = none
        ↔ ∃ s, plan.predicate.check = .ok s ∧ ∃ v ∈ t.matching s, plan.BreaksOff v) ∧
      ∀ answer, t.aggregate? plan = some answer
        ↔ t.aggregate? plan ≠ none ∧ answer = t.aggregate plan) ∧
    (∀ (bucket : Bucket) (time : Instant), time.date.InRange →
      (bucket.truncate? time = none ↔ bucket.LacksStart time.date) ∧
      ∀ first, bucket.truncate? time = some first
        ↔ first = bucket.truncate time ∧ first.InRange) ∧
    ∀ s d, bareDate? s = some d →
      ∃ u, Instant.afterMidnight? 86399 d = some u ∧ DateBounds.parseStop s = .ok u := by
  have hrange := inRange_of_ofText ht
  refine ⟨⟨hrange, aggregate?_eq_none_iff hrange, fun answer => aggregate?_eq_some_iff hrange⟩,
    fun bucket time htime => ⟨bucket.truncate?_eq_none_iff htime,
      fun first => bucket.truncate?_eq_some_iff htime⟩, fun s d hdate => ?_⟩
  exact ⟨.endOf d, Instant.afterMidnight?_endOf (Calendar.yields_bareDate? s d hdate),
    (DateBounds.parseStop_of_bareDate? hdate).1⟩

/-- How many views each bucket has. -/
def countBy (bucket : Bucket) : Plan :=
  ⟨.all, some bucket, [], [.count], .byGroup, none⟩

/-- A dataset of one view, at midnight. -/
def oneView (d : Date) : Dataset :=
  ⟨[], [⟨"ann"⟩], [⟨1, "Notes", "ann", none⟩], [⟨1, 1, none, none, .startOf d⟩]⟩

/-- A view on the first of all days, as it is written. -/
def firstDayText : String :=
  "[[],[[\"ann\"]],[[1,\"Notes\",\"ann\",null]],[[1,1,null,null,\"-262143-01-01T00:00:00Z\"]]]"

theorem ofText_firstDay : ofText firstDayText
    = .ok (oneView ⟨-262143, 1, 1, by decide, by decide, by decide, by decide⟩).tables := by
  have hread : Dataset.ofText? firstDayText
      = some (oneView ⟨-262143, 1, 1, by decide, by decide, by decide, by decide⟩) := by
    decide +kernel
  rw [ofText, hread]
  rfl

/-- The view on the first of all days has a month and no week; the last of all days has an
end. -/
theorem aggregate_breaksOff_iff_firstDay :
    ∃ t, ofText firstDayText = .ok t ∧ t.aggregate? (countBy .week) = none ∧
      t.aggregate? (countBy .month) = some (t.aggregate (countBy .month)) ∧
      ∃ u, DateBounds.parseStop "+262142-12-31" = .ok u ∧ u.date.InRange := by
  obtain ⟨⟨-, hweek, -⟩, -⟩ := aggregate_breaksOff_iff ofText_firstDay (countBy .week)
  obtain ⟨⟨-, hmonth, hanswer⟩, -, hends⟩ :=
    aggregate_breaksOff_iff ofText_firstDay (countBy .month)
  refine ⟨_, ofText_firstDay, hweek.mpr ?_, (hanswer _).mpr ⟨fun hnone => ?_, rfl⟩, ?_⟩
  · exact ⟨.all, rfl, _, .head _, .week, rfl, rfl, by decide⟩
  · obtain ⟨_, -, _, -, bucket, hbucket, hlacks⟩ := hmonth.mp hnone
    cases hbucket
    cases hlacks.bucket_eq
  · obtain ⟨u, hu, hstop⟩ := hends "+262142-12-31"
      ⟨262142, 12, 31, by decide, by decide, by decide, by decide⟩ (by decide +kernel)
    exact ⟨u, hstop, (Instant.afterMidnight?_eq_some_iff.mp hu).2⟩

/-- **Not every time in the calendar has a week in it**: a dataset with a view on the first of
all days is loaded, and counting its views by week breaks off. -/
theorem aggregate_breaksOff_firstDay :
    ∃ t v, ofText firstDayText = .ok t ∧ t.views = [v] ∧ v.time.date.InRange ∧
      Bucket.week.truncate? v.time = none ∧ t.aggregate? (countBy .week) = none :=
  ⟨_, _, ofText_firstDay, rfl, by decide, by decide, rfl⟩

end Tables

end Readership

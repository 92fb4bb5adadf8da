import Readership.Proofs.Plan.Order
import Readership.Proofs.View.Conformance

/-!
# The one arrangement of an answer

Which of two values, and which of two rows, comes first is said here without comparing
them: within a kind the smaller value, the kinds behind one another, null last
(`FieldValue.Precedes`); and of two rows the one with more views where the order asks for
that, then the one of the earlier bucket, then the one whose first different key comes
first (`Row.Precedes`). The comparisons that rows are sorted by decide exactly this
(`Row.compareBy_eq_lt_iff`).

Rows of different groups have one arrangement in which each precedes those behind it, and
sorting finds it from any other (`Row.sorted_canonical`). So where a limit cuts through
rows of equal counts, what is kept does not depend on how the rows came in, and a smaller
limit keeps the beginning of what a greater one keeps.
-/

namespace Readership

namespace FieldValue

/-- **Which of two values comes first**: the smaller one of a kind, an integer before a
text before an instant, and anything before null. -/
inductive Precedes : FieldValue → FieldValue → Prop where
  | ints {m n : Int} : m < n → Precedes (int m) (int n)
  | texts {s t : String} : s < t → Precedes (text s) (text t)
  | instants {t u : Instant} : t < u → Precedes (instant t) (instant u)
  | intText (n : Int) (s : String) : Precedes (int n) (text s)
  | intInstant (n : Int) (t : Instant) : Precedes (int n) (instant t)
  | textInstant (s : String) (t : Instant) : Precedes (text s) (instant t)
  | beforeNull {v : FieldValue} : v ≠ null → Precedes v null

variable {a b : FieldValue}

theorem compare_eq_iff : a.compare b = .eq ↔ a = b :=
  (inferInstance : Std.LawfulEqOrd FieldValue).compare_eq_iff_eq

theorem compare_text_eq_lt_iff {s t : String} : (text s).compare (text t) = .lt ↔ s < t :=
  compareOfLessAndEq_eq_lt

/-- **Comparing values decides which comes first.** -/
theorem compare_eq_lt_iff : a.compare b = .lt ↔ a.Precedes b := by
  constructor
  · intro h
    cases a <;> cases b
    case int.int => exact .ints (Int.compare_eq_lt.mp h)
    case text.text => exact .texts (compare_text_eq_lt_iff.mp h)
    case instant.instant => exact .instants h
    case int.text => exact .intText _ _
    case int.instant => exact .intInstant _ _
    case text.instant => exact .textInstant _ _
    case int.null | text.null | instant.null => exact .beforeNull (by simp)
    all_goals cases h
  · intro h
    cases h with
    | ints h => exact Int.compare_eq_lt.mpr h
    | texts h => exact compare_text_eq_lt_iff.mpr h
    | instants h => exact h
    | intText | intInstant | textInstant => rfl
    | beforeNull h =>
      cases a with
      | null => exact absurd rfl h
      | int | text | instant => rfl

/-- **Values of one kind** stand in the order in which a filter compares them. -/
theorem compare?_eq_some_compare (ha : a ≠ null) (hkind : a.kind? = b.kind?) :
    a.compare? b = some (a.compare b) := by
  obtain ⟨o, ho⟩ := exists_compare?_iff.mpr ⟨ha, hkind⟩
  rw [compare, ho]

end FieldValue

namespace Row

variable {order : RowOrder} {a b : Row} {rows rows' : List Row}

/-- **Which of two buckets comes first**: the earlier one, and any bucket before none. -/
def BucketPrecedes : Option Date → Option Date → Prop
  | some d, some e => d < e
  | some _, none => True
  | none, _ => False

/-- **Which of two groups comes first**: that of the earlier bucket, and within a bucket
that with the earlier value at the first key that differs. -/
def GroupPrecedes (a b : Row) : Prop :=
  BucketPrecedes a.bucket b.bucket ∨
    a.bucket = b.bucket ∧ List.Lex FieldValue.Precedes a.keys b.keys

/-- **Which of two rows comes first** in the order of a plan. -/
def Precedes : RowOrder → Row → Row → Prop
  | .byGroup, a, b => a.GroupPrecedes b
  | .byValue i, a, b => b.value i < a.value i ∨ a.value i = b.value i ∧ a.GroupPrecedes b

/-- **Rows of different groups**, one a group. -/
def Distinct (rows : List Row) : Prop :=
  rows.Pairwise fun a b => (a.bucket, a.keys) ≠ (b.bucket, b.keys)

/-! ## What the comparisons decide -/

theorem compareBuckets_eq_lt_iff {d e : Option Date} :
    compareBuckets d e = .lt ↔ BucketPrecedes d e := by
  cases d <;> cases e
  case some.some => exact Iff.rfl
  all_goals simp [compareBuckets, BucketPrecedes]

theorem compareKeys_eq_lt_iff {as bs : List FieldValue} :
    compareKeys as bs = .lt ↔ List.Lex FieldValue.Precedes as bs := by
  induction as generalizing bs with
  | nil => cases bs <;> simp [compareKeys]
  | cons a as ih =>
    cases bs with
    | nil => simp [compareKeys]
    | cons b bs =>
      rw [compareKeys, Ordering.then_eq_lt, FieldValue.compare_eq_lt_iff,
        FieldValue.compare_eq_iff, ih, List.cons_lex_cons_iff]

theorem compareGroups_eq_lt_iff : a.compareGroups b = .lt ↔ a.GroupPrecedes b := by
  rw [compareGroups, Ordering.then_eq_lt, compareBuckets_eq_lt_iff, compareKeys_eq_lt_iff,
    Std.LawfulEqCmp.compare_eq_iff_eq]
  rfl

/-- **Comparing rows decides which comes first.** -/
theorem compareBy_eq_lt_iff : compareBy order a b = .lt ↔ Precedes order a b := by
  cases order with
  | byGroup => exact compareGroups_eq_lt_iff
  | byValue i =>
    rw [compareBy, Ordering.then_eq_lt, Nat.compare_eq_lt, Nat.compare_eq_eq,
      compareGroups_eq_lt_iff, eq_comm]
    rfl

/-! ## The arrangement -/

theorem distinct_iff : Distinct rows ↔ rows.Pairwise fun a b => a.compareGroups b ≠ .eq := by
  simp only [Distinct, ne_eq, Prod.mk.injEq, compareGroups_eq_iff]

/-- **Sorted rows precede one another.** -/
theorem pairwise_precedes_sorted (h : Distinct rows) (order : RowOrder) :
    (sorted order none rows).Pairwise (Precedes order) :=
  (pairwise_sorted order (distinct_iff.mp h)).imp compareBy_eq_lt_iff.mp

/-- **No other arrangement does that.** -/
theorem eq_sorted_of_pairwise (h : Distinct rows) (hperm : rows'.Perm rows)
    (hpairwise : rows'.Pairwise (Precedes order)) : rows' = sorted order none rows :=
  eq_of_perm_of_pairwise (hperm.trans (sorted_perm order rows).symm)
    (hpairwise.imp compareBy_eq_lt_iff.mpr) (pairwise_sorted order (distinct_iff.mp h))

/-- **A smaller limit** keeps the beginning of what a greater one keeps. -/
theorem sorted_prefix_sorted {m n : Nat} (h : m ≤ n) (order : RowOrder) (rows : List Row) :
    sorted order (some m) rows <+: sorted order (some n) rows :=
  List.take_prefix_take_left h

/-- **The order of rows is canonical.** Values stand in a line in which those of one kind
are as a filter compares them and null is last. Rows of different groups have exactly one
arrangement in which each precedes those behind it, and sorting them gives as much of it
from the front as the limit allows, in whatever order they come in. -/
theorem sorted_canonical :
    (Std.TransOrd FieldValue ∧ Std.LawfulEqOrd FieldValue ∧
      (∀ v w : FieldValue, v ≠ .null → v.kind? = w.kind? → v.compare? w = some (v.compare w)) ∧
      ∀ v : FieldValue, v ≠ .null → v.compare .null = .lt) ∧
    (∀ (order : RowOrder) (rows : List Row), Distinct rows →
      ∃ line : List Row, (line.Perm rows ∧ line.Pairwise (Precedes order)) ∧
        (∀ other, other.Perm rows → other.Pairwise (Precedes order) → other = line) ∧
        ∀ rows' limit, rows'.Perm rows → sorted order limit rows' = limited limit line) ∧
    ∀ (order : RowOrder) (rows : List Row) (m n : Nat), m ≤ n →
      sorted order (some m) rows <+: sorted order (some n) rows := by
  refine ⟨⟨inferInstance, inferInstance, fun v w => FieldValue.compare?_eq_some_compare,
    fun v hv => FieldValue.compare_eq_lt_iff.mpr (.beforeNull hv)⟩, fun order rows h => ?_,
    fun order rows m n hle => sorted_prefix_sorted hle order rows⟩
  refine ⟨sorted order none rows, ⟨sorted_perm order rows, pairwise_precedes_sorted h order⟩,
    fun other => eq_sorted_of_pairwise h, fun rows' limit hperm => ?_⟩
  exact (sorted_eq_of_perm hperm.symm (distinct_iff.mp h) order limit).symm

/-- Of two groups with as many views a limit of two keeps the one with a country, behind the
row that a limit of one keeps. -/
theorem sorted_canonical_tie :
    sorted (.byValue 0) (some 2)
        [⟨none, [.null], [5]⟩, ⟨none, [.text "US"], [5]⟩, ⟨none, [.text "DE"], [9]⟩]
      = [⟨none, [.text "DE"], [9]⟩, ⟨none, [.text "US"], [5]⟩]
    ∧ sorted (.byValue 0) (some 1)
        [⟨none, [.null], [5]⟩, ⟨none, [.text "US"], [5]⟩, ⟨none, [.text "DE"], [9]⟩]
      <+: [⟨none, [.text "DE"], [9]⟩, ⟨none, [.text "US"], [5]⟩] := by
  obtain ⟨-, harranged, hprefix⟩ := sorted_canonical
  obtain ⟨line, -, hunique, hsorted⟩ := harranged (.byValue 0)
    [⟨none, [.null], [5]⟩, ⟨none, [.text "US"], [5]⟩, ⟨none, [.text "DE"], [9]⟩]
    (by simp [Distinct])
  have hline : [⟨none, [.text "DE"], [9]⟩, ⟨none, [.text "US"], [5]⟩, ⟨none, [.null], [5]⟩]
      = line := by
    have hnull : List.Lex FieldValue.Precedes [.text "US"] [.null] := .rel (.beforeNull (by simp))
    refine hunique _ (by decide) ?_
    simp [Precedes, GroupPrecedes, value, hnull]
  have htwo : sorted (.byValue 0) (some 2)
        [⟨none, [.null], [5]⟩, ⟨none, [.text "US"], [5]⟩, ⟨none, [.text "DE"], [9]⟩]
      = [⟨none, [.text "DE"], [9]⟩, ⟨none, [.text "US"], [5]⟩] := by
    rw [hsorted _ (some 2) (.refl _), ← hline]
    rfl
  exact ⟨htwo, htwo ▸ hprefix (.byValue 0) _ 1 2 (by decide)⟩

end Row

end Readership

import Mathlib.Order.Defs.LinearOrder
import Readership.Plan.Row
import Readership.Proofs.Calendar.Order

/-!
# The order of rows

Values stand in a line: those of one kind by their own order, the kinds behind one
another, null last. So do lists of keys, first difference deciding, and buckets, and
therefore rows by their groups or by a count before that. Two rows rank equal only if
they are of one group (`Row.compareGroups_eq_iff`).

An answer has one row a group, so its order leaves nothing open: of two rows the one
in front precedes the other (`Row.pairwise_sorted`), and a limit takes as many from the
front.
-/

namespace Readership

/-! ## Values -/

namespace FieldValue

/-- **Values stand in a line.** -/
instance : Std.TransOrd FieldValue where
  eq_swap {a b} := by
    show FieldValue.compare a b = (FieldValue.compare b a).swap
    cases a <;> cases b <;> simp only [compare, compare?, rank] <;>
      first
        | rfl
        | exact Std.OrientedOrd.eq_swap
        | exact @Std.OrientedOrd.eq_swap Instant _ _ _ _
  isLE_trans {a b c} := by
    show (FieldValue.compare a b).isLE → (FieldValue.compare b c).isLE →
      (FieldValue.compare a c).isLE
    cases a <;> cases b <;> cases c <;> simp only [compare, compare?, rank] <;> intro hab hbc <;>
      first
        | exact absurd hab (by decide)
        | exact absurd hbc (by decide)
        | assumption
        | exact Std.TransOrd.isLE_trans hab hbc
        | exact @Std.TransOrd.isLE_trans Instant _ _ _ _ _ hab hbc

/-- **Values of equal rank are equal.** -/
instance : Std.LawfulEqOrd FieldValue where
  compare_self {a} := by
    show FieldValue.compare a a = .eq
    cases a <;> simp [compare, compare?, rank, Instant.compare_eq_iff]
  eq_of_compare {a b} := by
    show FieldValue.compare a b = .eq → a = b
    cases a <;> cases b <;> simp [compare, compare?, rank, Instant.compare_eq_iff]

end FieldValue

namespace Row

/-! ## Keys, buckets and groups -/

/-- Comparing keys is comparing lists of values, the first difference deciding. -/
theorem compareKeys_eq (as bs : List FieldValue) :
    compareKeys as bs = List.compareLex Ord.compare as bs := by
  induction as generalizing bs with
  | nil => cases bs <;> rfl
  | cons a as ih =>
    cases bs with
    | nil => rfl
    | cons b bs =>
      rw [compareKeys, ih, List.compareLex_cons_cons]
      rfl

/-- **Keys stand in a line.** -/
instance : Std.TransCmp compareKeys := by
  rw [show compareKeys = List.compareLex Ord.compare from
    funext fun as => funext (compareKeys_eq as)]
  infer_instance

/-- Keys of equal rank are equal. -/
instance : Std.LawfulEqCmp compareKeys := by
  rw [show compareKeys = List.compareLex Ord.compare from
    funext fun as => funext (compareKeys_eq as)]
  infer_instance

/-- **Buckets stand in a line.** -/
instance : Std.TransCmp compareBuckets where
  eq_swap {a b} := by
    cases a <;> cases b <;> first | rfl | exact @Std.OrientedOrd.eq_swap Date _ _ _ _
  isLE_trans {a b c} := by
    cases a <;> cases b <;> cases c <;> intro hab hbc <;>
      first
        | rfl
        | exact absurd hab Bool.false_ne_true
        | exact absurd hbc Bool.false_ne_true
        | exact @Std.TransOrd.isLE_trans Date _ _ _ _ _ hab hbc

/-- Buckets of equal rank are equal. -/
instance : Std.LawfulEqCmp compareBuckets where
  compare_self {a} := by
    cases a <;> simp [compareBuckets, Date.compare_eq_iff]
  eq_of_compare {a b} := by
    cases a <;> cases b <;> simp [compareBuckets, Date.compare_eq_iff]

/-- A part that stands in a line puts what it is part of in a line. -/
theorem transCmp_comap {α β : Type} (part : α → β) (cmp : β → β → Ordering) [Std.TransCmp cmp] :
    Std.TransCmp fun a b => cmp (part a) (part b) where
  eq_swap := Std.OrientedCmp.eq_swap
  isLE_trans := Std.TransCmp.isLE_trans

/-- **Rows stand in a line by their groups.** -/
instance : Std.TransCmp compareGroups :=
  have := transCmp_comap Row.bucket compareBuckets
  have := transCmp_comap Row.keys compareKeys
  inferInstanceAs (Std.TransCmp (compareLex (fun a b : Row => compareBuckets a.bucket b.bucket)
    fun a b => compareKeys a.keys b.keys))

/-- **Rows stand in a line**, whatever the order asked for. -/
instance (order : RowOrder) : Std.TransCmp (compareBy order) :=
  match order with
  | .byGroup => inferInstanceAs (Std.TransCmp compareGroups)
  | .byValue i =>
    have := transCmp_comap (Row.value · i) fun m n => Ord.compare n m
    inferInstanceAs (Std.TransCmp (compareLex (fun a b : Row => Ord.compare (b.value i) (a.value i))
      compareGroups))

/-- **Rows of equal rank are of one group.** -/
theorem compareGroups_eq_iff {a b : Row} :
    a.compareGroups b = .eq ↔ a.bucket = b.bucket ∧ a.keys = b.keys := by
  rw [compareGroups, Ordering.then_eq_eq, Std.LawfulEqCmp.compare_eq_iff_eq,
    Std.LawfulEqCmp.compare_eq_iff_eq]

/-- Rows that no order tells apart are of one group. -/
theorem compareGroups_eq_of_compareBy {order : RowOrder} {a b : Row}
    (h : compareBy order a b = .eq) : a.compareGroups b = .eq := by
  cases order with
  | byGroup => exact h
  | byValue i => exact (Ordering.then_eq_eq.mp h).2

/-- Rows of different groups are so in any order. -/
theorem pairwise_ne_of_perm {rows rows' : List Row} (h : rows.Perm rows')
    (hne : rows.Pairwise fun a b => a.compareGroups b ≠ .eq) :
    rows'.Pairwise fun a b => a.compareGroups b ≠ .eq := by
  refine (h.pairwise_iff fun {a b} hab hba => hab ?_).mp hne
  obtain ⟨hbucket, hkeys⟩ := compareGroups_eq_iff.mp hba
  exact compareGroups_eq_iff.mpr ⟨hbucket.symm, hkeys.symm⟩

/-! ## Sorting -/

/-- Sorting a row list keeps its rows. -/
theorem sorted_perm (order : RowOrder) (rows : List Row) :
    (sorted order none rows).Perm rows :=
  List.mergeSort_perm rows _

/-- **Sorted rows of different groups strictly precede one another.** -/
theorem pairwise_sorted (order : RowOrder) {rows : List Row}
    (h : rows.Pairwise fun a b => a.compareGroups b ≠ .eq) :
    (sorted order none rows).Pairwise fun a b => compareBy order a b = .lt := by
  have hle : (sorted order none rows).Pairwise fun a b => (compareBy order a b != .gt) = true := by
    refine List.pairwise_mergeSort (fun a b c hab hbc => ?_) (fun a b => ?_) rows
    · rw [bne_iff_ne, ne_eq, Ordering.ne_gt_iff_isLE] at *
      exact Std.TransCmp.isLE_trans hab hbc
    · have hswap : compareBy order b a = (compareBy order a b).swap := Std.OrientedCmp.eq_swap
      rw [hswap]
      cases compareBy order a b <;> rfl
  have hne : (sorted order none rows).Pairwise fun a b => a.compareGroups b ≠ .eq :=
    pairwise_ne_of_perm (sorted_perm order rows).symm h
  refine (hle.and hne).imp fun {a b} hab => ?_
  obtain ⟨hle, hne⟩ := hab
  cases hcmp : compareBy order a b with
  | lt => rfl
  | eq => exact absurd (compareGroups_eq_of_compareBy hcmp) hne
  | gt => rw [hcmp] at hle; cases hle

/-- Of two rows only one can precede the other. -/
theorem compareBy_asymm {order : RowOrder} {a b : Row} (hab : compareBy order a b = .lt) :
    compareBy order b a ≠ .lt := by
  have hswap : compareBy order b a = (compareBy order a b).swap := Std.OrientedCmp.eq_swap
  rw [hswap, hab]
  decide

/-- **Rows stand in one way only** if each precedes those behind it. -/
theorem eq_of_perm_of_pairwise {order : RowOrder} {rows rows' : List Row} (h : rows.Perm rows')
    (hrows : rows.Pairwise fun a b => compareBy order a b = .lt)
    (hrows' : rows'.Pairwise fun a b => compareBy order a b = .lt) : rows = rows' :=
  List.Perm.eq_of_pairwise (fun _ _ _ _ hab hba => absurd hba (compareBy_asymm hab)) hrows hrows' h

/-- **Sorting forgets how rows of different groups came in.** -/
theorem sorted_eq_of_perm {rows rows' : List Row} (h : rows.Perm rows')
    (hne : rows.Pairwise fun a b => a.compareGroups b ≠ .eq) (order : RowOrder)
    (limit : Option Nat) : sorted order limit rows = sorted order limit rows' := by
  have hne' := pairwise_ne_of_perm h hne
  have hperm : (sorted order none rows).Perm (sorted order none rows') :=
    (sorted_perm order rows).trans (h.trans (sorted_perm order rows').symm)
  exact congrArg (limited limit)
    (eq_of_perm_of_pairwise hperm (pairwise_sorted order hne) (pairwise_sorted order hne'))

/-- A count that no row has is zero for each of them, and leaves them in the order of their
groups. -/
theorem sorted_byValue_of_length_le {rows : List Row} {i : Nat}
    (hmissing : ∀ row ∈ rows, row.values.length ≤ i)
    (hne : rows.Pairwise fun a b => a.compareGroups b ≠ .eq) (limit : Option Nat) :
    sorted (.byValue i) limit rows = sorted .byGroup limit rows := by
  have hperm := sorted_perm (.byValue i) rows
  have hvalue {row : Row} (hrow : row ∈ sorted (.byValue i) none rows) : row.value i = 0 := by
    rw [value, List.getElem?_eq_none (hmissing row (hperm.mem_iff.mp hrow))]
    rfl
  have hgroups : (sorted (.byValue i) none rows).Pairwise
      fun a b => compareBy .byGroup a b = .lt := by
    refine (pairwise_sorted (.byValue i) hne).imp_of_mem fun ha hb hlt => ?_
    rw [compareBy, hvalue ha, hvalue hb] at hlt
    exact hlt
  exact congrArg (limited limit) (eq_of_perm_of_pairwise
    (hperm.trans (sorted_perm .byGroup rows).symm) hgroups (pairwise_sorted .byGroup hne))

end Row

end Readership

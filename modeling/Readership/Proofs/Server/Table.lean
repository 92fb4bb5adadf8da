import Mathlib.Data.List.Nodup
import Readership.Proofs.Number.Numeral
import Readership.Proofs.Outcome
import Readership.Proofs.Server.Cell
import Readership.Server.Exchange
import Readership.Plan.Store

/-!
# Rows found by name

The statement of a plan names the columns that it needs, and a server may give them in any
order and others besides. So the rows of an answer are found by name: what a plan needs is
a list of slots (`Plan.slots`), each with a name of its own (`Plan.nodup_names`), and the
columns of an answer are these slots and extra ones in some order (`Plan.IsLayout`). A row
is read back if every cell writes what its slot holds of the row (`Slot.Writes`), because
the first column with the name of a slot is that slot (`Plan.IsLayout.eq_of_name_eq`).
Where a needed name is not among the columns, nothing is read.
-/

namespace Readership

open Outcome

/-! ## Slots -/

/-- **What a column is for.** -/
inductive Slot where
  | bucket
  | key (i : Nat)
  | value (i : Nat)
  | extra (name : String)
deriving DecidableEq

namespace Slot

/-- The name of the column. -/
def name : Slot → String
  | bucket => Sql.bucketAlias
  | key i => Sql.keyAlias i
  | value i => Sql.valueAlias i
  | extra name => name

/-- **What a cell writes of a row** in a column: anything in an extra one. -/
def Writes (row : Row) : Slot → Json → Prop
  | bucket, cell => Answer.BucketCell row.bucket cell
  | key i, cell => ∃ v, row.keys[i]? = some v ∧ v.Cell cell
  | value i, cell => ∃ n, row.values[i]? = some n ∧ Answer.CountCell n cell
  | extra _, _ => True

/-- Whether a plan asks for a column. -/
def isNeeded : Slot → Bool
  | extra _ => false
  | _ => true

/-- Different digits for different numbers. -/
theorem ofNat_injective : Function.Injective Numeral.ofNat := by
  intro i j h
  have hdigits : Numeral.digits i = Numeral.digits j := String.ofList_injective h
  rw [← Numeral.value_digits i, hdigits, Numeral.value_digits]

/-- **Columns that are needed for different things have different names.** -/
theorem eq_of_name_eq {a b : Slot} (ha : a.isNeeded = true) (hb : b.isNeeded = true)
    (h : a.name = b.name) : a = b := by
  have hchars : a.name.toList = b.name.toList := congrArg String.toList h
  cases a <;> cases b <;>
    simp [name, Sql.bucketAlias, Sql.keyAlias, Sql.valueAlias, isNeeded] at ha hb hchars ⊢
  all_goals exact ofNat_injective (String.ext hchars)

end Slot

namespace Plan

/-- **The columns that a plan needs.** -/
def slots (plan : Plan) : List Slot :=
  (plan.bucket.map fun _ => Slot.bucket).toList
    ++ ((List.range plan.groupBy.length).map .key ++ (List.range plan.aggregates.length).map .value)

/-- **The columns of an answer to a plan**: those that it needs and extra ones of other
names, in some order. -/
def IsLayout (plan : Plan) (layout : List Slot) : Prop :=
  ∃ extras : List String, layout.Perm (plan.slots ++ extras.map .extra) ∧
    ∀ name ∈ extras, name ∉ plan.slots.map Slot.name

variable {plan : Plan} {layout : List Slot} {slot : Slot}

theorem bucket_mem_slots : Slot.bucket ∈ plan.slots ↔ plan.bucket.isSome = true := by
  cases h : plan.bucket <;> simp [slots, h]

theorem key_mem_slots {i : Nat} : Slot.key i ∈ plan.slots ↔ i < plan.groupBy.length := by
  simp [slots]

theorem value_mem_slots {i : Nat} : Slot.value i ∈ plan.slots ↔ i < plan.aggregates.length := by
  simp [slots]

theorem isNeeded_of_mem_slots (h : slot ∈ plan.slots) : slot.isNeeded = true := by
  cases slot with
  | extra name => simp [slots] at h
  | _ => rfl

/-- **The columns that a plan needs have names of their own.** -/
theorem nodup_names (plan : Plan) : (plan.slots.map Slot.name).Nodup := by
  have hslots : plan.slots.Nodup := by
    have hkeys : ((List.range plan.groupBy.length).map Slot.key).Nodup :=
      List.Nodup.map (fun i j h => Slot.key.inj h) List.nodup_range
    have hvalues : ((List.range plan.aggregates.length).map Slot.value).Nodup :=
      List.Nodup.map (fun i j h => Slot.value.inj h) List.nodup_range
    rw [slots, List.nodup_append, List.nodup_append]
    refine ⟨by cases plan.bucket <;> simp, ⟨hkeys, hvalues, by simp⟩, fun a ha b hb => ?_⟩
    have ha' : a = .bucket := by
      cases hbucket : plan.bucket <;> simp [hbucket] at ha
      exact ha
    rintro rfl
    simp [ha'] at hb
  exact List.Nodup.map_on (fun a ha b hb =>
    Slot.eq_of_name_eq (isNeeded_of_mem_slots ha) (isNeeded_of_mem_slots hb)) hslots

/-- **A column with the name of one that is needed is that one.** -/
theorem IsLayout.eq_of_name_eq (h : plan.IsLayout layout) (hslot : slot ∈ plan.slots)
    {other : Slot} (hother : other ∈ layout) (heq : other.name = slot.name) : other = slot := by
  obtain ⟨extras, hperm, hextras⟩ := h
  rcases List.mem_append.mp (hperm.mem_iff.mp hother) with hneeded | hextra
  · exact Slot.eq_of_name_eq (isNeeded_of_mem_slots hneeded) (isNeeded_of_mem_slots hslot) heq
  · obtain ⟨name, hname, rfl⟩ := List.mem_map.mp hextra
    exact absurd (show name = slot.name from heq) fun h =>
      hextras name hname (h ▸ List.mem_map_of_mem hslot)

end Plan

namespace Answer

variable {plan : Plan} {layout : List Slot} {slot : Slot} {a : Answer}

/-! ## Finding columns -/

/-- **A column that is needed is found** at a place where it stands. -/
theorem exists_requireColumn (hlayout : plan.IsLayout layout)
    (hnames : a.columns.map (·.name) = layout.map Slot.name) (hslot : slot ∈ plan.slots) :
    ∃ j, a.requireColumn slot.name = .ok j ∧ layout[j]? = some slot := by
  have hmem : slot ∈ layout := by
    obtain ⟨extras, hperm, -⟩ := hlayout
    exact hperm.mem_iff.mpr (List.mem_append_left _ hslot)
  have hindex : a.columnIndex? slot.name = layout.findIdx? (·.name == slot.name) :=
    calc a.columns.findIdx? (·.name == slot.name)
        = (a.columns.map (·.name)).findIdx? (· == slot.name) := by rw [List.findIdx?_map]; rfl
      _ = (layout.map Slot.name).findIdx? (· == slot.name) := by rw [hnames]
      _ = layout.findIdx? (·.name == slot.name) := by rw [List.findIdx?_map]; rfl
  have hfound : (layout.findIdx? (·.name == slot.name)).isSome = true := by
    rw [List.findIdx?_isSome, List.any_eq_true]
    exact ⟨slot, hmem, beq_self_eq_true _⟩
  obtain ⟨j, hj⟩ := Option.isSome_iff_exists.mp hfound
  obtain ⟨hlt, hname, -⟩ := List.findIdx?_eq_some_iff_getElem.mp hj
  refine ⟨j, by rw [requireColumn, hindex, hj], ?_⟩
  rw [List.getElem?_eq_getElem hlt,
    hlayout.eq_of_name_eq hslot (List.getElem_mem hlt) (eq_of_beq hname)]

/-- A column that is found is there. -/
theorem mem_of_requireColumn {name : String} {j : Nat} (h : a.requireColumn name = .ok j) :
    name ∈ a.columns.map (·.name) := by
  unfold requireColumn at h
  split at h
  next i hi =>
    obtain ⟨hlt, hname, -⟩ := List.findIdx?_eq_some_iff_getElem.mp hi
    exact List.mem_map.mpr ⟨_, List.getElem_mem hlt, eq_of_beq hname⟩
  next => cases h

/-- **The places of the columns that a plan needs.** -/
structure Places (plan : Plan) (layout : List Slot) (bucket : Option Nat) (keys values : List Nat) :
    Prop where
  bucket : (plan.bucket = none ∧ bucket = none) ∨
    ∃ j, bucket = some j ∧ layout[j]? = some Slot.bucket
  length_keys : keys.length = plan.groupBy.length
  keys : ∀ i (h : i < keys.length), layout[keys[i]]? = some (Slot.key i)
  length_values : values.length = plan.aggregates.length
  values : ∀ i (h : i < values.length), layout[values[i]]? = some (Slot.value i)

/-- **Columns that are needed are found** one after the other. -/
theorem exists_mapM_requireColumn (hlayout : plan.IsLayout layout)
    (hnames : a.columns.map (·.name) = layout.map Slot.name) (slotOf : Nat → Slot) {n : Nat}
    (hslots : ∀ i < n, slotOf i ∈ plan.slots) :
    ∃ js, (List.range n).mapM (fun i => a.requireColumn (slotOf i).name) = .ok js ∧
      js.length = n ∧ ∀ i (h : i < js.length), layout[js[i]]? = some (slotOf i) := by
  obtain ⟨js, hjs, hplaces⟩ := exists_mapM_of_forall fun i hi =>
    exists_requireColumn hlayout hnames (hslots i (List.mem_range.mp hi))
  have hlength : js.length = n := by rw [← hplaces.length_eq, List.length_range]
  refine ⟨js, hjs, hlength, fun i hi => ?_⟩
  have hi' : i < (List.range n).length := by rw [List.length_range, ← hlength]; exact hi
  have hplace := hplaces.get hi' hi
  rwa [List.get_eq_getElem, List.get_eq_getElem, List.getElem_range] at hplace

/-- Finding columns is a chain of three steps before the rows. -/
theorem planRows_eq_bind (plan : Plan) (a : Answer) :
    planRows plan a
      = ((match plan.bucket with
          | some _ => (a.requireColumn Sql.bucketAlias).map some
          | none => pure none) >>= fun bucket =>
        (List.range plan.groupBy.length).mapM (fun i => a.requireColumn (Sql.keyAlias i)) >>=
          fun keys =>
        (List.range plan.aggregates.length).mapM (fun i => a.requireColumn (Sql.valueAlias i)) >>=
          fun values =>
        a.rows.mapM (rowOfCells bucket (plan.groupBy.zip keys) values)) := by
  rw [planRows]
  cases plan.bucket <;> rfl

/-- **Rows are found by name.** In an answer that has the columns of a plan, all places
are found, and the rows are read off the cells at them. -/
theorem exists_planRows_eq (hlayout : plan.IsLayout layout)
    (hnames : a.columns.map (·.name) = layout.map Slot.name) :
    ∃ bucket keys values, Places plan layout bucket keys values ∧
      planRows plan a = a.rows.mapM (rowOfCells bucket (plan.groupBy.zip keys) values) := by
  obtain ⟨keys, hkeys, hlengthkeys, hkeyplaces⟩ :=
    exists_mapM_requireColumn hlayout hnames .key fun _ => Plan.key_mem_slots.mpr
  obtain ⟨values, hvalues, hlengthvalues, hvalueplaces⟩ :=
    exists_mapM_requireColumn hlayout hnames .value fun _ => Plan.value_mem_slots.mpr
  simp only [Slot.name] at hkeys hvalues
  cases hbucket : plan.bucket with
  | none =>
    refine ⟨none, keys, values,
      ⟨.inl ⟨hbucket, rfl⟩, hlengthkeys, hkeyplaces, hlengthvalues, hvalueplaces⟩, ?_⟩
    rw [planRows_eq_bind, hbucket, hkeys, hvalues]
    rfl
  | some size =>
    obtain ⟨j, hj, hplace⟩ := exists_requireColumn hlayout hnames
      (Plan.bucket_mem_slots.mpr (by rw [hbucket]; rfl))
    rw [Slot.name] at hj
    refine ⟨some j, keys, values,
      ⟨.inr ⟨j, rfl, hplace⟩, hlengthkeys, hkeyplaces, hlengthvalues, hvalueplaces⟩, ?_⟩
    rw [planRows_eq_bind, hbucket, hj, hkeys, hvalues]
    rfl

/-! ## Reading rows -/

end Answer

/-- **A row that a plan may have**: a bucket only if the plan has buckets, a typed key for
each field and a count of 64 bits for each aggregate. -/
structure Row.Typed (plan : Plan) (row : Row) : Prop where
  bucket : plan.bucket = none → row.bucket = none
  keys : List.Forall₂ Field.Typed plan.groupBy row.keys
  values : row.values.length = plan.aggregates.length
  words : ∀ n ∈ row.values, n < 2 ^ 64

namespace Answer

variable {row : Row} {cells : List Json}

/-- **The cell at the place of a column** writes what belongs there. -/
theorem writes_cellAt (hcells : List.Forall₂ (Slot.Writes row) layout cells) {j : Nat}
    (hj : layout[j]? = some slot) : slot.Writes row (cellAt cells j) := by
  obtain ⟨hlt, hslot⟩ := List.getElem?_eq_some_iff.mp hj
  have hlt' : j < cells.length := hcells.length_eq ▸ hlt
  have hwrites := hcells.get hlt hlt'
  rw [cellAt, List.getElem?_eq_getElem hlt']
  exact hslot ▸ hwrites

/-- Reading a row is a chain of three steps. -/
theorem rowOfCells_eq_bind (bucket : Option Nat) (keys : List (Field × Nat)) (values : List Nat)
    (cells : List Json) :
    rowOfCells bucket keys values cells
      = ((match bucket with
          | some i => bucketOfCell (cellAt cells i)
          | none => pure none) >>= fun bucket =>
        keys.mapM (fun k => k.1.coerce (cellAt cells k.2)) >>= fun keys =>
        values.mapM (fun i => countOfCell (cellAt cells i)) >>= fun values =>
        pure ⟨bucket, keys, values⟩) := by
  cases bucket <;> rfl

/-- **A row is read back** from cells that write it. -/
theorem rowOfCells_eq {bucket : Option Nat} {keys values : List Nat}
    (hplaces : Places plan layout bucket keys values) (hrow : row.Typed plan)
    (hcells : List.Forall₂ (Slot.Writes row) layout cells) :
    rowOfCells bucket (plan.groupBy.zip keys) values cells = .ok row := by
  have hbucket : (match bucket with
      | some i => bucketOfCell (cellAt cells i)
      | none => pure none) = .ok row.bucket := by
    rcases hplaces.bucket with ⟨hnone, rfl⟩ | ⟨j, rfl, hj⟩
    · rw [hrow.bucket hnone]
      rfl
    · exact bucketOfCell_of_cell (writes_cellAt hcells hj)
  have hkeys : (plan.groupBy.zip keys).mapM (fun k => k.1.coerce (cellAt cells k.2))
      = .ok row.keys := by
    have hlength := hrow.keys.length_eq
    have hkeylength := hplaces.length_keys
    refine mapM_eq_ok.mpr (List.forall₂_iff_get.mpr ⟨?_, fun i hi hirow => ?_⟩)
    · rw [List.length_zip, hkeylength, Nat.min_self, hlength]
    · simp only [List.get_eq_getElem] at hi hirow ⊢
      have hifield : i < plan.groupBy.length := hlength ▸ hirow
      have hikey : i < keys.length := hkeylength ▸ hifield
      obtain ⟨v, hv, hcell⟩ := writes_cellAt hcells (hplaces.keys i hikey)
      rw [List.getElem?_eq_getElem hirow, Option.some.injEq] at hv
      rw [List.getElem_zip, hv]
      exact Field.coerce_of_cell (hv ▸ hrow.keys.get hifield hirow) hcell
  have hvalues : values.mapM (fun i => countOfCell (cellAt cells i)) = .ok row.values := by
    have hlength : values.length = row.values.length := by
      rw [hplaces.length_values, hrow.values]
    refine mapM_eq_ok.mpr (List.forall₂_iff_get.mpr ⟨hlength, fun i hi hirow => ?_⟩)
    obtain ⟨n, hn, hcell⟩ := writes_cellAt hcells (hplaces.values i hi)
    rw [List.getElem?_eq_getElem hirow, Option.some.injEq] at hn
    simp only [List.get_eq_getElem, hn]
    exact countOfCell_of_cell (hrow.words n (hn ▸ List.getElem_mem hirow)) hcell
  rw [rowOfCells_eq_bind, hbucket, hkeys, hvalues]
  rfl

/-- **All rows are read back**, in order. -/
theorem planRows_of_writes {rows : List Row} (hlayout : plan.IsLayout layout)
    (hnames : a.columns.map (·.name) = layout.map Slot.name)
    (hrows : List.Forall₂ (fun row cells => row.Typed plan ∧
      List.Forall₂ (Slot.Writes row) layout cells) rows a.rows) : planRows plan a = .ok rows := by
  obtain ⟨bucket, keys, values, hplaces, heq⟩ := exists_planRows_eq hlayout hnames
  rw [heq, mapM_eq_ok]
  exact hrows.flip.imp fun cells row h => rowOfCells_eq hplaces h.1 h.2

/-- **Nothing is read without a column that is needed.** -/
theorem mem_columns_of_planRows {rows : List Row} (h : planRows plan a = .ok rows)
    (hslot : slot ∈ plan.slots) : slot.name ∈ a.columns.map (·.name) := by
  rw [planRows_eq_bind] at h
  obtain ⟨bucket, hbucket, h⟩ := bind_eq_ok.mp h
  obtain ⟨keys, hkeys, h⟩ := bind_eq_ok.mp h
  obtain ⟨values, hvalues, -⟩ := bind_eq_ok.mp h
  cases slot with
  | bucket =>
    obtain ⟨size, hsize⟩ := Option.isSome_iff_exists.mp (Plan.bucket_mem_slots.mp hslot)
    rw [hsize] at hbucket
    obtain ⟨j, hj, -⟩ := map_eq_ok.mp hbucket
    exact mem_of_requireColumn hj
  | key i =>
    obtain ⟨j, hj⟩ := exists_mapM_iff.mp ⟨keys, hkeys⟩ i
      (List.mem_range.mpr (Plan.key_mem_slots.mp hslot))
    exact mem_of_requireColumn hj
  | value i =>
    obtain ⟨j, hj⟩ := exists_mapM_iff.mp ⟨values, hvalues⟩ i
      (List.mem_range.mpr (Plan.value_mem_slots.mp hslot))
    exact mem_of_requireColumn hj
  | extra name => cases Plan.isNeeded_of_mem_slots hslot

end Answer

end Readership

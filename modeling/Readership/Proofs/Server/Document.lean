import Readership.Proofs.Server.Table

/-!
# Rows read back from a document

A server answers with a document that gives, under two of its keys, the names of the
columns with their types and the rows (`Answer.IsTable`). Other keys may stand beside these
two and beside a name and its type, but none of them may stand twice. What is in the
document is read as the answer (`Answer.ofBody_of_isTable`), unless some row is not as wide
as there are columns.

So the two decoders together give back the rows that the cells write, whatever the order of
the columns and the spelling of the cells (`Answer.planRows_of_document`).
-/

namespace Readership

open Outcome
open Json (Written)

/-- Going through a list has results where each item has one. -/
theorem mapM_eq_some_of_forall₂ {α β : Type} {f : α → Option β} {xs : List α} {ys : List β}
    (h : List.Forall₂ (fun x y => f x = some y) xs ys) : xs.mapM f = some ys := by
  induction h with
  | nil => rfl
  | cons hx _ ih =>
    rw [List.mapM_cons, hx, ih]
    rfl

/-- **Two fields of a record**, each of which stands once. -/
theorem record?_pair {members : List (Option String × Written)} {first second : String}
    {a b : Written} (hkeys : ∀ m ∈ members, m.1.isSome = true)
    (ha : Written.valuesOf first members = [a]) (hb : Written.valuesOf second members = [b]) :
    (Written.obj members).record? [first, second] = some [some a, some b] := by
  rw [Written.record?, if_pos (List.all_eq_true.mpr hkeys)]
  refine mapM_eq_some_of_forall₂ (.cons ?_ (.cons ?_ .nil))
  · rw [Written.fieldOf?, ha]
  · rw [Written.fieldOf?, hb]

namespace Answer

/-! ## Documents -/

/-- **A column of a document**: an object with one name and one type. -/
inductive IsColumn : Written → String × String → Prop where
  | mk {members : List (Option String × Written)} {name type : String} :
    (∀ m ∈ members, m.1.isSome = true) → Written.valuesOf "name" members = [.str (some name)] →
    Written.valuesOf "type" members = [.str (some type)] → IsColumn (.obj members) (name, type)

/-- **A row of a document**: an array whose items denote values. -/
inductive IsLine : Written → List Json → Prop where
  | mk {items : List Written} {cells : List Json} :
    List.Forall₂ (fun item cell => cellValue? 3 item = some cell) items cells →
    IsLine (.arr items) cells

/-- **A document of a table**: an object with one list of columns and one of rows. -/
inductive IsTable : Written → List (String × String) → List (List Json) → Prop where
  | mk {members : List (Option String × Written)} {metas lines : List Written}
    {columns : List (String × String)} {rows : List (List Json)} :
    (∀ m ∈ members, m.1.isSome = true) → Written.valuesOf "meta" members = [.arr metas] →
    Written.valuesOf "data" members = [.arr lines] → List.Forall₂ IsColumn metas columns →
    List.Forall₂ IsLine lines rows → IsTable (.obj members) columns rows

variable {body : String} {w : Written} {columns : List (String × String)}
  {rows : List (List Json)}

theorem columnOfMeta?_eq {column : String × String} (h : IsColumn w column) :
    columnOfMeta? w = some (Column.ofType column.1 column.2) := by
  obtain ⟨hkeys, hname, htype⟩ := h
  rw [columnOfMeta?, record?_pair hkeys hname htype]
  rfl

theorem list?_eq_of_isLine {cells : List Json} (h : IsLine w cells) :
    w.list? (cellValue? 3) = some cells := by
  obtain ⟨hitems⟩ := h
  exact mapM_eq_some_of_forall₂ hitems

/-- **A document is read as the table that it holds.** -/
theorem partsOfDocument?_eq (h : IsTable w columns rows) :
    partsOfDocument? w = some (columns.map fun c => Column.ofType c.1 c.2, rows) := by
  obtain ⟨hkeys, hmeta, hdata, hcolumns, hlines⟩ := h
  rename_i members metas lines
  have hmetas : (Written.arr metas).list? columnOfMeta?
      = some (columns.map fun c => Column.ofType c.1 c.2) :=
    mapM_eq_some_of_forall₂
      (List.forall₂_map_right_iff.mpr (hcolumns.imp fun _ _ => columnOfMeta?_eq))
  have hrows : rowsOfData? (some (.arr lines)) = some rows :=
    mapM_eq_some_of_forall₂ (hlines.imp fun _ _ => list?_eq_of_isLine)
  rw [partsOfDocument?, record?_pair hkeys hmeta hdata]
  show ((Written.arr metas).list? columnOfMeta? >>= fun columns =>
    rowsOfData? (some (.arr lines)) >>= fun rows => pure (columns, rows)) = _
  rw [hmetas, hrows]
  rfl

/-- **The answer in a document**, unless a row has the wrong width. -/
theorem ofBody_of_isTable (hbody : Json.written? body = some w) (h : IsTable w columns rows) :
    ((∀ row ∈ rows, row.length = columns.length) →
      ofBody body = .ok ⟨columns.map fun c => Column.ofType c.1 c.2, rows, 0⟩) ∧
    ((∃ row ∈ rows, row.length ≠ columns.length) → ∃ cause, ofBody body = .error cause) := by
  have hparts : (Json.written? body).bind partsOfDocument?
      = some (columns.map fun c => Column.ofType c.1 c.2, rows) := by
    rw [hbody, Option.bind_some, partsOfDocument?_eq h]
  constructor
  · intro hwidth
    have hragged : ragged? (columns.map fun c => Column.ofType c.1 c.2) rows = none := by
      refine List.find?_eq_none.mpr fun row hrow => ?_
      simp [hwidth row hrow]
    rw [ofBody, hparts]
    simp only [hragged]
  · rintro ⟨row, hrow, hwidth⟩
    have hragged : (ragged? (columns.map fun c => Column.ofType c.1 c.2) rows).isSome = true := by
      refine List.find?_isSome.mpr ⟨row, hrow, ?_⟩
      simpa using hwidth
    obtain ⟨first, hfirst⟩ := Option.isSome_iff_exists.mp hragged
    rw [ofBody, hparts]
    simp only [hfirst]
    exact ⟨_, rfl⟩

/-- **The rows of a plan are read back from any document that writes them.** The columns
that a plan needs have names of their own. If the columns of a document are these and extra
ones, in some order, and each cell writes what its column holds of a row that the plan may
have, then the rows are given back in order. If a column that is needed is not there, or a
row has another number of cells than there are columns, nothing is. -/
theorem planRows_of_document (plan : Plan) (hbody : Json.written? body = some w)
    (htable : IsTable w columns rows) :
    (plan.slots.map Slot.name).Nodup ∧
    (∀ layout expected, plan.IsLayout layout → columns.map (·.1) = layout.map Slot.name →
      List.Forall₂ (fun (row : Row) cells => row.Typed plan ∧
        List.Forall₂ (Slot.Writes row) layout cells) expected rows →
      (Fault.ofServer (ofBody body) >>= planRows plan) = .ok expected) ∧
    ((∃ slot ∈ plan.slots, slot.name ∉ columns.map (·.1)) ∨
        (∃ row ∈ rows, row.length ≠ columns.length) →
      ∃ fault, (Fault.ofServer (ofBody body) >>= planRows plan) = .error fault) := by
  obtain ⟨hanswer, hragged⟩ := ofBody_of_isTable hbody htable
  have hnames : (columns.map fun c => Column.ofType c.1 c.2).map (·.name) = columns.map (·.1) := by
    rw [List.map_map]
    rfl
  refine ⟨plan.nodup_names, fun layout expected hlayout hcolumns hexpected => ?_, fun h => ?_⟩
  · have hlength : layout.length = columns.length := by
      rw [← List.length_map Slot.name, ← hcolumns, List.length_map]
    have hwidth : ∀ row ∈ rows, row.length = columns.length := by
      have hrows := hexpected.flip.imp (S := fun cells _ => cells.length = columns.length ∧ True)
        fun cells row h => ⟨h.2.length_eq.symm.trans hlength, trivial⟩
      exact ((List.forall₂_and_left _ _).mp hrows).1
    rw [hanswer hwidth]
    exact planRows_of_writes hlayout (hnames.trans hcolumns) hexpected
  · by_cases hwidth : ∃ row ∈ rows, row.length ≠ columns.length
    · obtain ⟨cause, hcause⟩ := hragged hwidth
      exact ⟨.server cause, by rw [hcause]; rfl⟩
    · obtain ⟨slot, hslot, hmissing⟩ := h.resolve_right hwidth
      have hread : ofBody body = .ok ⟨columns.map fun c => Column.ofType c.1 c.2, rows, 0⟩ :=
        hanswer fun row hrow => not_not.mp fun hne => hwidth ⟨row, hrow, hne⟩
      rw [hread]
      cases hplan : planRows plan ⟨columns.map fun c => Column.ofType c.1 c.2, rows, 0⟩ with
      | error fault => exact ⟨fault, hplan⟩
      | ok found => exact absurd (hnames ▸ mem_columns_of_planRows hplan hslot) hmissing

/-- A document with two rows and its columns in an order of its own. -/
def twoRows : String :=
  "\x7b\"meta\":[\x7b\"name\":\"v0\",\"type\":\"\"\x7d," ++
    "\x7b\"name\":\"k0\",\"type\":\"\"\x7d,\x7b\"name\":\"k1\",\"type\":\"\"\x7d]," ++
    "\"data\":[[\"18446744073709551615\",\"-7\",null],[3,null,[]]]\x7d"

/-- A column with a name and no type. -/
def columnEntry (name : String) : Written :=
  .obj [(some "name", .str (some name)), (some "type", .str (some ""))]

/-- What is written in the document. -/
def twoRowsWritten : Written :=
  .obj [
    (some "meta", .arr [columnEntry "v0", columnEntry "k0", columnEntry "k1"]),
    (some "data", .arr [
      .arr [.str (some "18446744073709551615"), .str (some "-7"), .null],
      .arr [.num (some (.int 3)), .null, .arr []]])]

theorem isTable_twoRowsWritten :
    IsTable twoRowsWritten [("v0", ""), ("k0", ""), ("k1", "")]
      [[.str "18446744073709551615", .str "-7", .null], [.ofInt 3, .null, .arr []]] := by
  have hcolumn (name : String) : IsColumn (columnEntry name) (name, "") := ⟨by simp, rfl, rfl⟩
  refine ⟨by simp, rfl, rfl, ?_, ?_⟩
  · exact .cons (hcolumn "v0") (.cons (hcolumn "k0") (.cons (hcolumn "k1") .nil))
  · have hfirst : IsLine (.arr [.str (some "18446744073709551615"), .str (some "-7"), .null])
        [.str "18446744073709551615", .str "-7", .null] :=
      ⟨.cons rfl (.cons rfl (.cons rfl .nil))⟩
    have hsecond : IsLine (.arr [.num (some (.int 3)), .null, .arr []])
        [.ofInt 3, .null, .arr []] :=
      ⟨.cons rfl (.cons rfl (.cons rfl .nil))⟩
    exact .cons hfirst (.cons hsecond .nil)

theorem planRows_of_document_twoRows :
    (Fault.ofServer (ofBody twoRows) >>= planRows ⟨.all, none, [.blogId], [.count], .byGroup, none⟩)
        = .ok [⟨none, [.int (-7)], [18446744073709551615]⟩, ⟨none, [.null], [3]⟩] ∧
      ∃ fault, (Fault.ofServer (ofBody twoRows) >>=
        planRows ⟨.all, none, [.blogId], [.count, .count], .byGroup, none⟩) = .error fault := by
  have hbody : Json.written? twoRows = some twoRowsWritten := by
    set_option maxRecDepth 20000 in rfl
  constructor
  · obtain ⟨-, hread, -⟩ :=
      planRows_of_document ⟨.all, none, [.blogId], [.count], .byGroup, none⟩ hbody
        isTable_twoRowsWritten
    have hseven : Field.Typed .blogId (.int (-7)) :=
      ⟨⟨.inr rfl, nofun⟩, fun h => by cases h; decide⟩
    have hnull : Field.Typed .blogId .null := ⟨Field.admits_null _, nofun⟩
    have hmost : Numeral.Spells 18446744073709551615 "18446744073709551615".toList :=
      ⟨by decide, List.all_eq_true.mp (by decide), by decide⟩
    have hminus : Numeral.SpellsInt (-7) "-7".toList :=
      .negative ⟨by decide, List.all_eq_true.mp (by decide), by decide⟩
    refine hread [.value 0, .key 0, .extra "k1"] _ ⟨["k1"], by decide, by decide⟩ rfl ?_
    refine .cons ⟨⟨fun _ => rfl, .cons hseven .nil, rfl, by decide⟩, ?_⟩
      (.cons ⟨⟨fun _ => rfl, .cons hnull .nil, rfl, by decide⟩, ?_⟩ .nil)
    · exact .cons ⟨_, rfl, .digits hmost⟩ (.cons ⟨_, rfl, .digits hminus⟩ (.cons trivial .nil))
    · exact .cons ⟨_, rfl, .number 3⟩ (.cons ⟨_, rfl, .null⟩ (.cons trivial .nil))
  · obtain ⟨-, -, hmissing⟩ :=
      planRows_of_document ⟨.all, none, [.blogId], [.count, .count], .byGroup, none⟩ hbody
        isTable_twoRowsWritten
    exact hmissing (.inl ⟨.value 1, by decide, by decide⟩)

end Answer

end Readership

import Readership.Proofs.Archive.Answer
import Readership.Proofs.Server.Table
import Readership.Proofs.Sql.Rewording
import Readership.Proofs.Sql.Words

/-!
# Names and the columns that they stand for

A statement gives its columns names, and groups and orders by such names. They are read off
its words (`Sql.names?`): a name stands behind `AS`, and what a statement groups or orders by
stands behind `GROUP BY` or `ORDER BY`, up to the next clause. A statement is well scoped if
every name that it uses is that of one column (`Sql.Names.WellScoped`).

The statement of a plan names its columns by position, and groups by the names that it gives.
It orders by a name with a number that comes from the plan, and nothing compares this number
with that of the counts. Where it is too great, the statement orders by a column that is not
there, and this is the only way in which it is not well scoped
(`Sql.planText_wellScoped_iff`). The tables of an archive answer such a plan nevertheless,
with the rows in the order of their groups (`Tables.aggregate_byValue_of_length_le`).
-/

namespace Readership.Sql

/-! ## Reading names -/

/-- **The names in a statement**: what its columns are called, what it groups by and what it
orders by. -/
structure Names where
  columns : List String
  groupBy : List String
  orderBy : List String
deriving DecidableEq, Repr

/-- Every name that is used stands for one column. -/
structure Names.WellScoped (names : Names) : Prop where
  distinct : names.columns.Nodup
  groups : ∀ name ∈ names.groupBy, name ∈ names.columns
  orders : ∀ name ∈ names.orderBy, name ∈ names.columns

/-- The words that begin the clauses behind a table. -/
def clauseHeads : List String :=
  ["WHERE", "GROUP", "ORDER", "LIMIT"]

/-- The word behind each `AS`. -/
def namesGiven : List String → List String
  | [] => []
  | w :: ws => if w = "AS" then ws.head?.toList ++ namesGiven ws else namesGiven ws

/-- The words of the clause that begins with `head` and `BY`, up to the next clause. -/
def wordsBy (head : String) (ws : List String) : List String :=
  ((ws.dropWhile (· != head)).drop 2).takeWhile (!clauseHeads.contains ·)

/-- **The names in a statement** that selects columns under names from a table. Its keywords are
in capitals, and the table is one word. -/
def names? (sql : String) : Option Names :=
  match wordsOf sql with
  | [] => none
  | first :: ws =>
    match ws.dropWhile (· != "FROM") with
    | _ :: _ :: behind =>
      if first = "SELECT" then
        some
          { columns := namesGiven (ws.takeWhile (· != "FROM"))
            groupBy := wordsBy "GROUP" behind
            orderBy := (wordsBy "ORDER" behind).filter (· != "DESC") }
      else none
    | _ => none

example : names? "SELECT id AS k0, MAX(n) AS v0 FROM t WHERE s = ' LIMIT' GROUP BY k0 ORDER BY v0"
    = some ⟨["k0", "v0"], ["k0"], ["v0"]⟩ := by cbv

variable {us ws names rest : List String} {head name : String}

/-- **A column and its name.** -/
theorem namesGiven_append (h : "AS" ∉ us) (hname : name ≠ "AS") (ws : List String) :
    namesGiven (us ++ "AS" :: name :: ws) = name :: namesGiven ws := by
  induction us with
  | nil => simp [namesGiven, hname]
  | cons u us ih =>
    rw [List.mem_cons, not_or] at h
    rw [List.cons_append, namesGiven, if_neg (Ne.symm h.1), ih h.2]

/-- What is in front of a clause does not matter. -/
theorem wordsBy_append (h : head ∉ us) (ws : List String) :
    wordsBy head (us ++ ws) = wordsBy head ws := by
  have hfront : ∀ w ∈ us, (w != head) = true := by
    rintro w hw
    rw [bne_iff_ne]
    rintro rfl
    exact h hw
  rw [wordsBy, List.dropWhile_append_of_pos hfront, wordsBy]

/-- The words of a clause, with its heading in front unless there are none. -/
def headed (heading names : List String) : List String :=
  if names.isEmpty then [] else heading ++ names

/-- **The words of a clause** are found, up to what begins the next one. -/
theorem wordsBy_headed (hnames : ∀ w ∈ names, w ∉ clauseHeads) (hrest : head ∉ rest)
    (hnext : ∀ w ∈ rest.head?, w ∈ clauseHeads) :
    wordsBy head (headed [head, "BY"] names ++ rest) = names := by
  have hnone : wordsBy head rest = [] := by
    have h := wordsBy_append hrest []
    rwa [List.append_nil] at h
  have hend : rest.takeWhile (!clauseHeads.contains ·) = [] := by
    cases rest with
    | nil => rfl
    | cons w rest => simp [hnext w rfl]
  cases names with
  | nil => exact hnone
  | cons n names =>
    have hpos : ∀ w ∈ n :: names, (!clauseHeads.contains w) = true := fun w hw => by
      simp [hnames w hw]
    show ((([head, "BY"] ++ (n :: names) ++ rest).dropWhile (· != head)).drop 2).takeWhile _ = _
    rw [List.append_assoc, List.cons_append, List.dropWhile_cons_of_neg (by simp)]
    show (n :: names ++ rest).takeWhile _ = _
    rw [List.takeWhile_append_of_pos hpos, hend, List.append_nil]

/-! ## Names of plans -/

/-- The words that a name must not be, or it would be read as something else. -/
def reserved : List String :=
  ["AS", "FROM", "DESC"] ++ clauseHeads

/-- **The name of something that a plan may need.** -/
def IsName (name : String) : Prop :=
  ∃ slot : Slot, slot.isNeeded = true ∧ slot.name = name

namespace IsName

theorem not_mem_reserved (h : IsName name) : name ∉ reserved := by
  obtain ⟨slot, hneeded, rfl⟩ := h
  intro hmem
  have hletters : ∀ w ∈ reserved, ∀ c ∈ ['b', 'k', 'v'], c ∉ w.toList := by
    simp [reserved, clauseHeads]
  have hfirst : ∃ c ∈ ['b', 'k', 'v'], c ∈ slot.name.toList := by
    cases slot with
    | bucket => exact ⟨'b', by decide, by decide⟩
    | key i => exact ⟨'k', by decide, by simp [Slot.name, keyAlias]⟩
    | value i => exact ⟨'v', by decide, by simp [Slot.name, valueAlias]⟩
    | extra => cases hneeded
  obtain ⟨c, hc, hin⟩ := hfirst
  exact hletters _ hmem c hc hin

theorem not_mem_clauseHeads (h : IsName name) : name ∉ clauseHeads := fun hmem =>
  h.not_mem_reserved (List.mem_append_right ["AS", "FROM", "DESC"] hmem)

/-- **A name is one word**, read as itself. -/
theorem oneWord (h : IsName name) : OneWord name ∧ wordsOf name = [name] := by
  obtain ⟨slot, hneeded, rfl⟩ := h
  have hnumbered {k : String} (hne : k ≠ "") (hk : k.toList.all isPlain = true) (i : Nat) :
      OneWord (k ++ Numeral.ofNat i) ∧ wordsOf (k ++ Numeral.ofNat i) = [k ++ Numeral.ofNat i] := by
    refine oneWord_of_isPlain (fun h => hne (String.append_eq_empty_iff.mp h).1) ?_
    rw [String.toList_append, List.all_append, hk, Bool.true_and, List.all_eq_true]
    intro c hc
    rw [Numeral.ofNat, String.toList_ofList] at hc
    simp [isPlain, Char.isAlphanum, Numeral.isDigit_of_mem_digits hc]
  cases slot with
  | bucket => exact oneWord_of_isPlain (by decide) (by decide)
  | key i => exact hnumbered (by decide) (by decide) i
  | value i => exact hnumbered (by decide) (by decide) i
  | extra => cases hneeded

end IsName

/-- Names are read as themselves. -/
theorem flatMap_wordsOf_names (h : ∀ name ∈ names, IsName name) :
    names.flatMap wordsOf = names := by
  induction names with
  | nil => rfl
  | cons name names ih =>
    obtain ⟨hname, hnames⟩ := List.forall_mem_cons.mp h
    rw [List.flatMap_cons, hname.oneWord.2, ih hnames]
    rfl

/-! ## Columns -/

/-- Letters of the words that give a name and that end the columns: of `AS`, and of `FROM`. -/
def columnLetters : List Char :=
  ['A', 'F']

/-- **A column that is read back**: an expression without these words, and the name of
something that a plan needs. -/
structure IsColumn (c : String × String) : Prop where
  expression : Avoids columnLetters c.1
  name : IsName c.2

namespace IsColumn

variable {c : String × String} {columns : List (String × String)}

theorem not_mem_wordsOf (h : IsColumn c) {w : String} (hw : w = "AS" ∨ w = "FROM") :
    w ∉ wordsOf c.1 := by
  rcases hw with rfl | rfl
  · exact h.expression.not_mem_wordsOf (c := 'A') (by decide) (by decide)
  · exact h.expression.not_mem_wordsOf (c := 'F') (by decide) (by decide)

/-- **What a column is read as.** -/
theorem wordsOf_aliased (h : IsColumn c) :
    Finished (Select.aliased c.1 c.2)
      ∧ wordsOf (Select.aliased c.1 c.2) = wordsOf c.1 ++ ["AS", c.2] := by
  have he : Finished c.1 := h.expression.finished
  obtain ⟨⟨hname, -, -⟩, hwords⟩ := h.name.oneWord
  obtain ⟨⟨has, -, -⟩, hword⟩ := oneWord_of_isPlain (s := "AS") (by decide) (by decide)
  have htext : Select.aliased c.1 c.2 = c.1 ++ " " ++ ("AS" ++ " " ++ c.2) := by
    rw [Select.aliased, ← String.toList_inj]
    simp
  rw [htext]
  refine ⟨he.gap (by decide) (has.gap (by decide) hname), ?_⟩
  rw [he.wordsOf_gap (by decide), has.wordsOf_gap (by decide), hword, hwords]
  rfl

/-- Words with names between them. -/
theorem namesGiven_flatMap (h : ∀ c ∈ columns, IsColumn c) :
    namesGiven (columns.flatMap fun c => wordsOf c.1 ++ ["AS", c.2]) = columns.map Prod.snd := by
  induction columns with
  | nil => rfl
  | cons c columns ih =>
    obtain ⟨hc, hcolumns⟩ := List.forall_mem_cons.mp h
    have hname : c.2 ≠ "AS" := fun heq => hc.name.not_mem_reserved (heq ▸ by decide)
    rw [List.flatMap_cons, List.append_assoc]
    exact (namesGiven_append (hc.not_mem_wordsOf (.inl rfl)) hname _).trans
      (congrArg (c.2 :: ·) (ih hcolumns))

/-- **Columns are read back**, each by its name. -/
theorem columnList_spec (h : ∀ c ∈ columns, IsColumn c) {text : String}
    (htext : text = Select.columnList (columns.map fun c => Select.aliased c.1 c.2)) :
    Finished text ∧ "FROM" ∉ wordsOf text ∧ namesGiven (wordsOf text) = columns.map Prod.snd := by
  cases columns with
  | nil =>
    subst htext
    exact ⟨Unmarked.finished (k := "*") (by decide), by decide, by decide⟩
  | cons c columns =>
    obtain ⟨hfinished, hjoined⟩ := finished_joinWith (k := ", ") (by decide)
      (List.forall_mem_map.mpr fun c hc => (h c hc).wordsOf_aliased.1)
    have hwords : wordsOf text = (c :: columns).flatMap fun c => wordsOf c.1 ++ ["AS", c.2] := by
      rw [htext]
      refine hjoined.trans ?_
      rw [List.flatMap_map]
      exact List.flatMap_congr fun c hc => (h c hc).wordsOf_aliased.2
    refine ⟨htext ▸ hfinished, ?_, ?_⟩
    · rw [hwords, List.mem_flatMap]
      rintro ⟨d, hd, hmem⟩
      rw [List.mem_append, List.mem_cons, List.mem_singleton] at hmem
      rcases hmem with hmem | hmem | hmem
      · exact (h d hd).not_mem_wordsOf (.inr rfl) hmem
      · exact absurd hmem (by decide)
      · exact (h d hd).name.not_mem_reserved (hmem ▸ by decide)
    · rw [hwords, namesGiven_flatMap h]

end IsColumn

/-- The columns of a plan have the names of what it needs. -/
theorem map_snd_planColumns (plan : Plan) :
    (planColumns plan).map Prod.snd = plan.slots.map Slot.name := by
  have hindexed {α : Type} (xs : List α) (write : α → String) (name : Nat → String) :
      (xs.mapIdx fun i x => (write x, name i)).map Prod.snd = (List.range xs.length).map name := by
    refine List.ext_getElem (by simp) fun i hi hi' => ?_
    simp
  rw [planColumns, Plan.slots, List.map_append, List.map_append, hindexed, hindexed,
    List.map_append, List.map_append, List.map_map, List.map_map, List.append_assoc]
  cases plan.bucket <;> rfl

/-- **The columns of a plan are read back.** -/
theorem isColumn_planColumns (plan : Plan) : ∀ c ∈ planColumns plan, IsColumn c := by
  have hcolumn (f : Field) : Avoids columnLetters f.column := avoids_column (by decide) f
  intro c hc
  have hname : c.2 ∈ plan.slots.map Slot.name :=
    map_snd_planColumns plan ▸ List.mem_map_of_mem hc
  obtain ⟨slot, hslot, hname⟩ := List.mem_map.mp hname
  refine ⟨?_, slot, Plan.isNeeded_of_mem_slots hslot, hname⟩
  rw [planColumns, List.mem_append, List.mem_append] at hc
  obtain (hc | hc) | hc := hc
  · obtain ⟨b, -, rfl⟩ := Option.map_eq_some_iff.mp (Option.mem_toList.mp hc)
    have hfunction : Avoids columnLetters (Select.bucketFunction b) := by
      cases b <;> exact Neutral.avoids (by decide)
    rw [bucketExpression_eq]
    exact (Avoids.link (by decide) (by decide) (Avoids.link (by decide) (by decide)
      (hfunction.after (by decide)) (hcolumn _)) (avoids_quoted (by decide) _)).before (by decide)
  · obtain ⟨i, hi, rfl⟩ := List.mem_mapIdx.mp hc
    exact hcolumn _
  · obtain ⟨i, hi, rfl⟩ := List.mem_mapIdx.mp hc
    cases plan.aggregates[i] with
    | count => exact Neutral.avoids (k := "COUNT(*)") (by decide)
    | distinct f => exact ((hcolumn f).after (by decide)).before (by decide)

/-! ## Clauses -/

/-- **A clause behind a table**: finished, and kept apart from what is in front of it. -/
structure IsClause (text : String) (ws : List String) : Prop where
  finished : Finished text
  apart : StartsApart text
  words : wordsOf text = ws

theorem isClause_empty : IsClause "" [] :=
  ⟨Unmarked.finished (k := "") (by decide), trivial, rfl⟩

theorem IsClause.append {a b : String} (ha : IsClause a us) (hb : IsClause b ws) :
    IsClause (a ++ b) (us ++ ws) := by
  refine ⟨ha.finished.append hb.finished hb.apart.startsWithout, ?_, ?_⟩
  · rw [StartsApart, String.toList_append]
    exact startsWithout_append ha.apart fun _ => hb.apart
  · rw [ha.finished.wordsOf_append hb.apart, ha.words, hb.words]

/-- **The words that begin a clause**, kept apart from what is in front of them. -/
structure IsHeading (k : String) : Prop where
  unmarked : Unmarked k
  ne_empty : k ≠ ""
  apart : StartsApart k

/-- A heading and what is behind it. -/
theorem isClause_heading {k text : String} (hk : IsHeading k) (htext : Finished text) :
    IsClause (k ++ " " ++ text) (wordsOf k ++ wordsOf text) := by
  obtain ⟨hunmarked, hne, hapart⟩ := hk
  refine ⟨hunmarked.finished.gap (by decide) htext, ?_,
    hunmarked.finished.wordsOf_gap (by decide) _⟩
  rw [StartsApart, String.append_assoc, String.toList_append]
  exact startsWithout_append hapart fun h => absurd (String.toList_eq_nil_iff.mp h) hne

/-- A clause that is left out if it has no parts. -/
theorem isClause_clause {k separator : String} {parts : List String} (hk : IsHeading k)
    (hparts : Finished (Text.joinWith separator parts)) :
    IsClause (Select.clause (k ++ " ") separator parts)
      (if parts.isEmpty then [] else wordsOf k ++ wordsOf (Text.joinWith separator parts)) := by
  rw [Select.clause]
  split
  · exact isClause_empty
  · exact isClause_heading hk hparts

/-- A clause of parts with commas between them. -/
theorem isClause_headed {k : String} {parts : List String} (hk : IsHeading k)
    (hparts : ∀ s ∈ parts, Finished s ∧ wordsOf s ≠ []) :
    IsClause (Select.clause (k ++ " ") ", " parts)
      (headed (wordsOf k) (parts.flatMap wordsOf)) := by
  obtain ⟨hfinished, hwords⟩ := finished_joinWith (k := ", ") (by decide)
    (fun s hs => (hparts s hs).1)
  have hempty : (parts.flatMap wordsOf).isEmpty = parts.isEmpty := by
    cases parts with
    | nil => rfl
    | cons s parts =>
      obtain ⟨w, ws, hw⟩ := List.exists_cons_of_ne_nil (hparts s List.mem_cons_self).2
      rw [List.flatMap_cons, hw]
      rfl
  rw [headed, hempty, ← hwords]
  exact isClause_clause hk hfinished

/-- The clause that limits the rows. -/
theorem exists_isClause_limitClause (limit : Option Nat) :
    ∃ ws, IsClause (Select.limitClause limit) ws ∧ "GROUP" ∉ ws ∧ "ORDER" ∉ ws
      ∧ ∀ w ∈ ws.head?, w ∈ clauseHeads := by
  cases limit with
  | none => exact ⟨[], isClause_empty, by simp⟩
  | some n =>
    have hnumber : InClause (Numeral.ofNat n) := (neutral_ofNat n).avoids
    have hword : wordsOf " LIMIT" = ["LIMIT"] := by decide
    have hclause := isClause_heading (k := " LIMIT") ⟨by decide, by decide, rfl⟩ hnumber.finished
    rw [hword] at hclause
    refine ⟨_, hclause, ?_, ?_, ?_⟩
    · exact List.not_mem_append (by decide)
        (hnumber.not_mem_wordsOf (c := 'G') (by decide) (by decide))
    · exact List.not_mem_append (by decide)
        (hnumber.not_mem_wordsOf (c := 'E') (by decide) (by decide))
    · rintro w hw
      cases hw
      decide

/-- **The names in the clauses are found.** -/
theorem wordsBy_remainder {filters groups orders limit : List String}
    (hfilters : "GROUP" ∉ filters ∧ "ORDER" ∉ filters)
    (hgroups : ∀ w ∈ groups, w ∉ clauseHeads) (horders : ∀ w ∈ orders, w ∉ clauseHeads)
    (hlimit : "GROUP" ∉ limit ∧ "ORDER" ∉ limit ∧ ∀ w ∈ limit.head?, w ∈ clauseHeads)
    {behind : List String} (hbehind : behind = filters ++ headed ["GROUP", "BY"] groups
      ++ headed ["ORDER", "BY"] orders ++ limit) :
    wordsBy "GROUP" behind = groups ∧ wordsBy "ORDER" behind = orders := by
  have hheaded {w head : String} {names : List String} (hw : w ∈ clauseHeads) (hne : w ≠ head)
      (hnames : ∀ w ∈ names, w ∉ clauseHeads) : w ∉ headed [head, "BY"] names := by
    rw [headed]
    split
    · exact List.not_mem_nil
    · rw [List.mem_append, List.mem_cons, List.mem_singleton]
      rintro ((h | h) | h)
      · exact hne h
      · exact absurd (h ▸ hw) (by decide)
      · exact hnames w h hw
  obtain ⟨hgroup, horder, hnext⟩ := hlimit
  have hgroupOrders : "GROUP" ∉ headed ["ORDER", "BY"] orders :=
    hheaded (by decide) (by decide) horders
  have horderGroups : "ORDER" ∉ headed ["GROUP", "BY"] groups :=
    hheaded (by decide) (by decide) hgroups
  refine ⟨?_, ?_⟩
  · have hnext' : ∀ w ∈ (headed ["ORDER", "BY"] orders ++ limit).head?, w ∈ clauseHeads := by
      cases orders with
      | nil => exact hnext
      | cons o orders =>
        rintro w hw
        cases hw
        decide
    rw [hbehind, List.append_assoc, List.append_assoc, wordsBy_append hfilters.1]
    exact wordsBy_headed hgroups (List.not_mem_append hgroupOrders hgroup) hnext'
  · rw [hbehind, List.append_assoc, wordsBy_append (List.not_mem_append hfilters.2 horderGroups)]
    exact wordsBy_headed horders horder hnext

/-! ## Statements of plans -/

/-- What a plan groups by are names of what it needs. -/
theorem exists_slot_of_mem_groupAliases {plan : Plan} {name : String}
    (h : name ∈ groupAliases plan) : ∃ slot ∈ plan.slots, slot.name = name := by
  rw [groupAliases, List.mem_append] at h
  rcases h with h | h
  · obtain ⟨b, hb, rfl⟩ := Option.map_eq_some_iff.mp (Option.mem_toList.mp h)
    exact ⟨.bucket, Plan.bucket_mem_slots.mpr (by rw [hb]; rfl), rfl⟩
  · obtain ⟨i, hi, rfl⟩ := List.mem_map.mp h
    exact ⟨.key i, Plan.key_mem_slots.mpr (List.mem_range.mp hi), rfl⟩

/-- The names that a plan orders by. -/
def orderNames (plan : Plan) : List String :=
  match plan.order with
  | .byGroup => groupAliases plan
  | .byValue i => valueAlias i :: groupAliases plan

theorem isName_of_mem_groupAliases {plan : Plan} : ∀ name ∈ groupAliases plan, IsName name := by
  intro name hname
  obtain ⟨slot, hslot, rfl⟩ := exists_slot_of_mem_groupAliases hname
  exact ⟨slot, Plan.isNeeded_of_mem_slots hslot, rfl⟩

/-- **What a plan orders by is read back**, without the word for the direction. -/
theorem planOrder_spec (plan : Plan) :
    (∀ s ∈ planOrder plan, Finished s ∧ wordsOf s ≠ [])
      ∧ (∀ w ∈ (planOrder plan).flatMap wordsOf, w ∉ clauseHeads)
      ∧ ((planOrder plan).flatMap wordsOf).filter (· != "DESC") = orderNames plan := by
  have hgroups : ∀ name ∈ groupAliases plan, IsName name := isName_of_mem_groupAliases
  have hwritten : ∀ s ∈ groupAliases plan, Finished s ∧ wordsOf s ≠ [] := fun s hs => by
    obtain ⟨hword, hwords⟩ := (hgroups s hs).oneWord
    exact ⟨hword.finished, by rw [hwords]; simp⟩
  have hother {name : String} (h : IsName name) : (name != "DESC") = true := by
    rw [bne_iff_ne]
    rintro rfl
    exact h.not_mem_reserved (by decide)
  have hfilter : (groupAliases plan).filter (· != "DESC") = groupAliases plan :=
    List.filter_eq_self.mpr fun name hname => hother (hgroups name hname)
  have hheads : ∀ w ∈ groupAliases plan, w ∉ clauseHeads := fun w hw =>
    (hgroups w hw).not_mem_clauseHeads
  have hnames := flatMap_wordsOf_names hgroups
  rw [planOrder, orderNames]
  cases plan.order with
  | byGroup => exact ⟨hwritten, hnames.symm ▸ hheads, by rw [hnames, hfilter]⟩
  | byValue i =>
    have hvalue : IsName (valueAlias i) := ⟨.value i, rfl, rfl⟩
    obtain ⟨hword, hwords⟩ := hvalue.oneWord
    obtain ⟨hdesc, hdescWords⟩ := oneWord_of_isPlain (s := "DESC") (by decide) (by decide)
    have htext : Select.descending (valueAlias i) = valueAlias i ++ " " ++ "DESC" := by
      rw [Select.descending, ← String.toList_inj]
      simp
    have hfirst : wordsOf (Select.descending (valueAlias i)) = [valueAlias i, "DESC"] := by
      rw [htext, hword.finished.wordsOf_gap (by decide), hwords, hdescWords]
      rfl
    have hall : (Select.descending (valueAlias i) :: groupAliases plan).flatMap wordsOf
        = valueAlias i :: "DESC" :: groupAliases plan := by
      rw [List.flatMap_cons, hfirst, hnames]
      rfl
    refine ⟨List.forall_mem_cons.mpr ⟨⟨?_, by rw [hfirst]; simp⟩, hwritten⟩, ?_, ?_⟩
    · rw [htext]
      exact hword.finished.gap (by decide) hdesc.finished
    · rw [hall, List.forall_mem_cons, List.forall_mem_cons]
      exact ⟨hvalue.not_mem_clauseHeads, by decide, hheads⟩
    · rw [hall, List.filter_cons, if_pos (hother hvalue), List.filter_cons, if_neg (by decide),
        hfilter]

/-- The condition of a plan belongs to one clause. -/
theorem exists_isClause_filters (plan : Plan) (s : Selection) (tableName : String) :
    ∃ ws, IsClause (Select.clause " WHERE " " AND " (planSelect plan s tableName).filters) ws
      ∧ "GROUP" ∉ ws ∧ "ORDER" ∉ ws := by
  have hparts : ∀ t ∈ (planSelect plan s tableName).filters, InClause t := by
    cases s with
    | all => exact fun t ht => absurd ht List.not_mem_nil
    | criterion | and | or | not =>
      exact List.forall_mem_singleton.mpr (inClause_selection _)
  have hjoined : InClause (Text.joinWith " AND " (planSelect plan s tableName).filters) :=
    Avoids.joinWith (by decide) (by decide) hparts
  have hword : wordsOf " WHERE" = ["WHERE"] := by decide
  refine ⟨_, isClause_clause (k := " WHERE") ⟨by decide, by decide, rfl⟩ hjoined.finished, ?_, ?_⟩
  · split
    · exact List.not_mem_nil
    · exact List.not_mem_append (hword ▸ by decide)
        (hjoined.not_mem_wordsOf (c := 'G') (by decide) (by decide))
  · split
    · exact List.not_mem_nil
    · exact List.not_mem_append (hword ▸ by decide)
        (hjoined.not_mem_wordsOf (c := 'E') (by decide) (by decide))

/-- **Behind its table** a statement groups and orders by the names of its plan. -/
theorem remainder_spec (plan : Plan) (s : Selection) (tableName : String) :
    StartsApart (planSelect plan s tableName).remainder
      ∧ wordsBy "GROUP" (wordsOf (planSelect plan s tableName).remainder) = groupAliases plan
      ∧ (wordsBy "ORDER" (wordsOf (planSelect plan s tableName).remainder)).filter (· != "DESC")
        = orderNames plan := by
  obtain ⟨filters, hfilters, hnone⟩ := exists_isClause_filters plan s tableName
  obtain ⟨limit, hlimit, hnext⟩ := exists_isClause_limitClause plan.limit
  obtain ⟨hwritten, hheads, hfilter⟩ := planOrder_spec plan
  have hgroups : ∀ name ∈ groupAliases plan, IsName name := isName_of_mem_groupAliases
  have hnames := flatMap_wordsOf_names hgroups
  have hgroup : IsClause (Select.clause " GROUP BY " ", " (groupAliases plan))
      (headed ["GROUP", "BY"] (groupAliases plan)) := by
    have h := isClause_headed (k := " GROUP BY") ⟨by decide, by decide, rfl⟩ fun t ht =>
      ⟨(hgroups t ht).oneWord.1.finished, by rw [(hgroups t ht).oneWord.2]; simp⟩
    have hword : wordsOf " GROUP BY" = ["GROUP", "BY"] := by decide
    rwa [hword, hnames] at h
  have horder : IsClause (Select.clause " ORDER BY " ", " (planOrder plan))
      (headed ["ORDER", "BY"] ((planOrder plan).flatMap wordsOf)) := by
    have h := isClause_headed (k := " ORDER BY") ⟨by decide, by decide, rfl⟩ hwritten
    have hword : wordsOf " ORDER BY" = ["ORDER", "BY"] := by decide
    rwa [hword] at h
  have htext : (planSelect plan s tableName).remainder
      = Select.clause " WHERE " " AND " (planSelect plan s tableName).filters
        ++ Select.clause " GROUP BY " ", " (groupAliases plan)
        ++ Select.clause " ORDER BY " ", " (planOrder plan) ++ Select.limitClause plan.limit := by
    cases s <;> rfl
  have hremainder := ((hfilters.append hgroup).append horder).append hlimit
  rw [← htext] at hremainder
  obtain ⟨hgroupBy, horderBy⟩ := wordsBy_remainder hnone
    (fun w hw => (hgroups w hw).not_mem_clauseHeads) hheads hnext hremainder.words
  exact ⟨hremainder.apart, hgroupBy, by rw [horderBy, hfilter]⟩

/-- **The names in the statement of a plan.** -/
def planNames (plan : Plan) : Names :=
  { columns := plan.slots.map Slot.name
    groupBy := groupAliases plan
    orderBy := orderNames plan }

/-- **The statement of a plan is read back**, name by name. -/
theorem names?_planSelect (plan : Plan) (s : Selection) (tableName : String) :
    names? (planSelect plan s tableName).text = some (planNames plan) := by
  obtain ⟨hapart, hgroupBy, horderBy⟩ := remainder_spec plan s tableName
  have hcolumnList : (planSelect plan s tableName).columns
      = (planColumns plan).map fun c => Select.aliased c.1 c.2 := by cases s <;> rfl
  obtain ⟨hcolumns, hfrom, hgiven⟩ :=
    IsColumn.columnList_spec (isColumn_planColumns plan) (congrArg Select.columnList hcolumnList)
  rw [map_snd_planColumns] at hgiven
  have htable : OneWord (planSelect plan s tableName).table := by
    rw [table_planSelect]
    exact oneWord_table tableName
  generalize planSelect plan s tableName = sql at *
  obtain ⟨⟨hselect, -, -⟩, hselectWords⟩ :=
    oneWord_of_isPlain (s := "SELECT") (by decide) (by decide)
  obtain ⟨⟨hend, -, -⟩, hendWords⟩ := oneWord_of_isPlain (s := "FROM") (by decide) (by decide)
  have htext : sql.text = "SELECT" ++ " " ++ (Select.columnList sql.columns ++ " "
      ++ ("FROM" ++ " " ++ (sql.table ++ sql.remainder))) := by
    rw [Select.text_eq, Select.lead, ← String.toList_inj]
    simp
  have hwords : wordsOf sql.text = "SELECT" :: (wordsOf (Select.columnList sql.columns)
      ++ "FROM" :: String.ofList (outline sql.table.toList) :: wordsOf sql.remainder) := by
    rw [htext, hselect.wordsOf_gap (by decide), hcolumns.wordsOf_gap (by decide),
      hend.wordsOf_gap (by decide), htable.finished.wordsOf_append hapart, hselectWords, hendWords,
      htable.wordsOf_eq]
    rfl
  have hcolumnWords : ∀ w ∈ wordsOf (Select.columnList sql.columns), (w != "FROM") = true := by
    intro w hw
    rw [bne_iff_ne]
    rintro rfl
    exact hfrom hw
  rw [names?, hwords]
  simp [List.dropWhile_append_of_pos hcolumnWords, List.takeWhile_append_of_pos hcolumnWords,
    hgiven, hgroupBy, horderBy, planNames]

/-- **A count has a column of its name** if the plan asks for it. -/
theorem valueAlias_mem_names_iff {plan : Plan} {i : Nat} :
    valueAlias i ∈ plan.slots.map Slot.name ↔ i < plan.aggregates.length := by
  rw [← Plan.value_mem_slots, List.mem_map]
  constructor
  · rintro ⟨slot, hslot, hname⟩
    exact Slot.eq_of_name_eq (b := .value i) (Plan.isNeeded_of_mem_slots hslot) rfl hname ▸ hslot
  · exact fun h => ⟨.value i, h, rfl⟩

/-- What a plan groups by has a column of its name. -/
theorem mem_names_of_mem_groupAliases {plan : Plan} :
    ∀ name ∈ groupAliases plan, name ∈ plan.slots.map Slot.name := by
  intro name hname
  obtain ⟨slot, hslot, rfl⟩ := exists_slot_of_mem_groupAliases hname
  exact List.mem_map_of_mem hslot

/-- **Nothing but the count that a plan is ordered by** can be without a column. -/
theorem wellScoped_planNames_iff {plan : Plan} :
    (planNames plan).WellScoped ↔ ∀ i, plan.order = .byValue i → i < plan.aggregates.length := by
  constructor
  · intro hscoped i hi
    have horders : valueAlias i ∈ orderNames plan := by
      rw [orderNames, hi]
      exact List.mem_cons_self
    exact valueAlias_mem_names_iff.mp (hscoped.orders _ horders)
  · refine fun hindex => ⟨plan.nodup_names, mem_names_of_mem_groupAliases, fun name hname => ?_⟩
    have hname' : name ∈ orderNames plan := hname
    unfold orderNames at hname'
    split at hname'
    next => exact mem_names_of_mem_groupAliases name hname'
    next i hi =>
      rcases List.mem_cons.mp hname' with rfl | hgroup
      · exact valueAlias_mem_names_iff.mpr (hindex i hi)
      · exact mem_names_of_mem_groupAliases name hgroup

/-- **The statement of a plan is well scoped unless the plan is ordered by a count that it does
not ask for.** Its columns have names of their own, one for each thing that the plan needs, and
it groups by such names. The tables of an archive answer the plan in any case, and in the order
of its groups if there is no count to order by. -/
theorem planText_wellScoped_iff {plan : Plan} {s : Selection} (h : plan.predicate.check = .ok s)
    (tableName : String) :
    ∃ sql names, planText plan tableName = .ok sql ∧ names? sql = some names
      ∧ names.columns = plan.slots.map Slot.name ∧ names.columns.Nodup
      ∧ (∀ name ∈ names.groupBy, name ∈ names.columns)
      ∧ (names.WellScoped ↔ ∀ i, plan.order = .byValue i → i < plan.aggregates.length)
      ∧ ∀ t : Tables, ∃ rows, t.aggregate plan = .ok rows
        ∧ (¬ names.WellScoped → t.aggregate { plan with order := .byGroup } = .ok rows) := by
  refine ⟨_, planNames plan, planText_eq h tableName, names?_planSelect plan s tableName, rfl,
    plan.nodup_names, mem_names_of_mem_groupAliases, wellScoped_planNames_iff, fun t => ?_⟩
  obtain ⟨rows, hrows⟩ : ∃ rows, t.aggregate plan = .ok rows :=
    ⟨_, Tables.aggregate_eq_ok_iff.mpr ⟨s, h, rfl⟩⟩
  refine ⟨rows, hrows, fun hnot => ?_⟩
  rw [wellScoped_planNames_iff] at hnot
  push Not at hnot
  obtain ⟨i, hi, hle⟩ := hnot
  rw [t.aggregate_byValue_of_length_le hi hle, hrows]

/-- Views of blogs with a clause in their titles, by month and viewer, ordered by the number of
titles. -/
def clausePlan : Plan :=
  { predicate := .leaf ⟨"blog.title", .contains, .str "' GROUP BY v9 --"⟩
    bucket := some .month
    groupBy := [.viewerUser, .viewerUser]
    aggregates := [.count, .distinct .blogTitle]
    order := .byValue 1
    limit := some 10 }

/-- The clause in the literal is none, and neither are the words in the name of the table. -/
theorem planText_wellScoped_iff_clausePlan :
    ∃ sql names, planText clausePlan "from.`ORDER BY v7`" = .ok sql ∧ names? sql = some names
      ∧ names.columns = ["bucket", "k0", "k1", "v0", "v1"] ∧ names.WellScoped := by
  have hcheck : clausePlan.predicate.check = .ok _ := rfl
  obtain ⟨sql, names, hsql, hnames, hcolumns, -, -, hscoped, -⟩ :=
    planText_wellScoped_iff hcheck "from.`ORDER BY v7`"
  refine ⟨sql, names, hsql, hnames, hcolumns, hscoped.mpr fun i hi => ?_⟩
  cases hi
  decide

/-- **A statement may order by a column that is not there**, for a plan that the tables of an
archive answer. -/
theorem planText_not_wellScoped :
    ¬ ∀ (plan : Plan) (s : Selection) (sql : String) (names : Names),
      plan.predicate.check = .ok s → planText plan "blog_views" = .ok sql →
      names? sql = some names → names.WellScoped := by
  intro h
  have hnames : names? "SELECT COUNT(*) AS v0 FROM blog_views ORDER BY v5 DESC"
      = some ⟨["v0"], [], ["v5"]⟩ := by decide
  have hwell := h ⟨.all, none, [], [.count], .byValue 5, none⟩ .all _ _ rfl rfl hnames
  exact absurd (hwell.orders "v5" List.mem_cons_self) (by decide)

end Readership.Sql

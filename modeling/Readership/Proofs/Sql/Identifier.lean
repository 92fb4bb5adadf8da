import Readership.Proofs.Sql.Rendering

/-!
# Tables as identifiers

A server takes the table of a statement for identifiers with dots between them. An
identifier is a run of plain characters, or it stands between backticks, where a backslash
takes the next character out of its role (`Sql.IsIdentifierText`, `Sql.IsTableText`). The
relations here say which texts name what, and do not mention the writer of names.

The grammar leaves no choice: of what begins with a table and goes on with something that
belongs to no identifier there is one reading only (`Sql.IsTableText.unique`). So a written
table is the table that it was written for, part by part, whatever its name
(`Sql.table_reads_back`), and nothing in the name gets out of its identifier.
-/

namespace Readership.Sql

open Text (StartsWithout)

/-! ## The grammar -/

/-- **What stands between backticks**, and what it names. -/
inductive Unquotes : List Char → List Char → Prop where
  | nil : Unquotes [] []
  | plain {c : Char} {cs part : List Char} : c ≠ '\\' → c ≠ '`' → Unquotes cs part →
    Unquotes (c :: cs) (c :: part)
  | escaped {c meant : Char} {cs part : List Char} : unescape? c = some meant →
    Unquotes cs part → Unquotes ('\\' :: c :: cs) (meant :: part)

/-- A letter or a digit of ASCII, or the underscore. -/
def isBare (c : Char) : Bool :=
  c.isAlpha || c.isDigit || c == '_'

/-- **The text of an identifier**, and what it names. -/
inductive IsIdentifierText : List Char → List Char → Prop where
  | bare {cs : List Char} : cs ≠ [] → (∀ c ∈ cs, isBare c = true) → IsIdentifierText cs cs
  | quoted {cs part : List Char} : Unquotes cs part → IsIdentifierText ('`' :: (cs ++ ['`'])) part

/-- **The text of a table**: identifiers with dots between them, and what each names. -/
inductive IsTableText : List Char → List (List Char) → Prop where
  | last {cs part : List Char} : IsIdentifierText cs part → IsTableText cs [part]
  | dot {cs part rest : List Char} {parts : List (List Char)} : IsIdentifierText cs part →
    IsTableText rest parts → IsTableText (cs ++ '.' :: rest) (part :: parts)

variable {a b part other rest more : List Char} {parts others : List (List Char)}

/-! ## One reading -/

/-- **What is quoted ends at its backtick.** -/
theorem Unquotes.unique (ha : Unquotes a part) (hb : Unquotes b other)
    (h : a ++ '`' :: rest = b ++ '`' :: more) : a = b ∧ part = other ∧ rest = more := by
  induction ha generalizing b other with
  | nil =>
    cases hb with
    | nil => exact ⟨rfl, rfl, (List.cons.inj h).2⟩
    | plain hslash htick hb => exact absurd (List.cons.inj h).1.symm htick
    | escaped hmeant hb => cases h
  | @plain c a part hslash htick ha ih =>
    cases hb with
    | nil => exact absurd (List.cons.inj h).1 htick
    | plain hslash' htick' hb =>
      obtain ⟨rfl, htail⟩ := List.cons.inj h
      obtain ⟨rfl, rfl, rfl⟩ := ih hb htail
      exact ⟨rfl, rfl, rfl⟩
    | escaped hmeant hb => exact absurd (List.cons.inj h).1 hslash
  | @escaped c meant a part hmeant ha ih =>
    cases hb with
    | nil => cases h
    | plain hslash' htick' hb => exact absurd (List.cons.inj h).1.symm hslash'
    | escaped hmeant' hb =>
      obtain ⟨rfl, htail⟩ := List.cons.inj (List.cons.inj h).2
      obtain ⟨rfl, rfl, rfl⟩ := ih hb htail
      rw [hmeant] at hmeant'
      obtain rfl := Option.some.inj hmeant'
      exact ⟨rfl, rfl, rfl⟩

/-- A backtick is in no bare identifier. -/
theorem bare_ne_quoted (hne : a ≠ []) (ha : ∀ c ∈ a, isBare c = true) :
    a ++ rest ≠ '`' :: more := by
  obtain ⟨c, cs, rfl⟩ := List.exists_cons_of_ne_nil hne
  rintro ⟨⟩
  exact absurd (ha '`' List.mem_cons_self) (by decide)

/-- **An identifier ends where it cannot go on.** -/
theorem IsIdentifierText.unique (ha : IsIdentifierText a part) (hb : IsIdentifierText b other)
    (hrest : StartsWithout isBare rest) (hmore : StartsWithout isBare more)
    (h : a ++ rest = b ++ more) : a = b ∧ part = other ∧ rest = more := by
  cases ha with
  | bare hne hbare =>
    cases hb with
    | bare hne' hbare' =>
      have hfront := congrArg (List.takeWhile isBare) h
      have hback := congrArg (List.dropWhile isBare) h
      rw [Text.takeWhile_append_of_startsWithout hbare hrest,
        Text.takeWhile_append_of_startsWithout hbare' hmore] at hfront
      rw [Text.dropWhile_append_of_startsWithout hbare hrest,
        Text.dropWhile_append_of_startsWithout hbare' hmore] at hback
      exact ⟨hfront, hfront, hback⟩
    | quoted hb => exact absurd h (bare_ne_quoted hne hbare)
  | @quoted cs part ha =>
    cases hb with
    | bare hne' hbare' => exact absurd h.symm (bare_ne_quoted hne' hbare')
    | @quoted ds other hb =>
      rw [List.cons_append, List.cons_append, List.append_assoc, List.append_assoc] at h
      obtain ⟨rfl, rfl, rfl⟩ := ha.unique hb (List.cons.inj h).2
      exact ⟨rfl, rfl, rfl⟩

/-- The characters that a table goes on with. -/
def continuesTable (c : Char) : Bool :=
  isBare c || c == '.'

theorem startsWithout_isBare (h : StartsWithout continuesTable rest) :
    StartsWithout isBare rest := by
  cases rest with
  | nil => trivial
  | cons c rest => exact (Bool.or_eq_false_iff.mp h).1

/-- A dot continues a table. -/
theorem not_startsWithout_dot : ¬ StartsWithout continuesTable ('.' :: rest) := by
  rw [Text.startsWithout_cons]
  decide

/-- **A table is read in one way only**, and ends where it cannot go on. -/
theorem IsTableText.unique (ha : IsTableText a parts) (hb : IsTableText b others)
    (hrest : StartsWithout continuesTable rest) (hmore : StartsWithout continuesTable more)
    (h : a ++ rest = b ++ more) : a = b ∧ parts = others ∧ rest = more := by
  have hdot (cs : List Char) : StartsWithout isBare ('.' :: cs) := rfl
  induction ha generalizing b others with
  | last hname =>
    cases hb with
    | last hname' =>
      obtain ⟨rfl, rfl, rfl⟩ := hname.unique hname' (startsWithout_isBare hrest)
        (startsWithout_isBare hmore) h
      exact ⟨rfl, rfl, rfl⟩
    | dot hname' hb =>
      rw [List.append_assoc, List.cons_append] at h
      obtain ⟨-, -, rfl⟩ := hname.unique hname' (startsWithout_isBare hrest) (hdot _) h
      exact absurd hrest not_startsWithout_dot
  | dot hname ha ih =>
    rw [List.append_assoc, List.cons_append] at h
    cases hb with
    | last hname' =>
      obtain ⟨-, -, rfl⟩ := hname.unique hname' (hdot _) (startsWithout_isBare hmore) h
      exact absurd hmore not_startsWithout_dot
    | dot hname' hb =>
      rw [List.append_assoc, List.cons_append] at h
      obtain ⟨rfl, rfl, htail⟩ := hname.unique hname' (hdot _) (hdot _) h
      obtain ⟨rfl, rfl, rfl⟩ := ih hb (List.cons.inj htail).2
      exact ⟨rfl, rfl, rfl⟩

/-! ## Written tables -/

/-- **Escaping is undone by the backslashes** that it puts in. -/
theorem unquotes_escapeChars (cs : List Char) : Unquotes (escapeChars '`' cs) cs := by
  induction cs with
  | nil => exact .nil
  | cons c cs ih =>
    rw [escapeChars_cons, escapeChar]
    split
    next hslash =>
      subst hslash
      exact .escaped rfl ih
    split
    next htick =>
      subst htick
      exact .escaped rfl ih
    next hslash htick => exact .plain hslash htick ih

/-- **A written name is the text of an identifier** that names it. -/
theorem isIdentifierText_nameChars (cs : List Char) : IsIdentifierText (nameChars cs) cs := by
  rw [nameChars]
  split
  next hplain =>
    rw [Bool.and_eq_true, Bool.not_eq_true', List.isEmpty_eq_false_iff] at hplain
    refine .bare hplain.1 fun c hc => ?_
    have hc := List.all_eq_true.mp hplain.2 c hc
    simpa [isPlain, isBare, Char.isAlphanum, Bool.or_assoc] using hc
  next => exact .quoted (unquotes_escapeChars cs)

theorem isTableText_dottedChars (hne : parts ≠ []) : IsTableText (dottedChars parts) parts := by
  induction parts with
  | nil => exact absurd rfl hne
  | cons part parts ih =>
    cases parts with
    | nil => exact .last (isIdentifierText_nameChars part)
    | cons next parts =>
      exact .dot (isIdentifierText_nameChars part) (ih (List.cons_ne_nil _ _))

/-- **A written table is the text of its parts.** -/
theorem isTableText_table (s : String) :
    IsTableText (table s).toList (Text.splitAt '.' s.toList) := by
  rw [table, String.toList_ofList]
  exact isTableText_dottedChars (Text.splitAt_ne_nil '.' s.toList)

/-- **Tables read back.** What is written of a table is the text of identifiers with dots
between them, and in one way only: they name the parts between the dots of the table, in
their order. That text ends where a statement goes on with something else, different tables
are written differently, and a table that settings accept is written as it is. -/
theorem table_reads_back (s : String) :
    (∀ parts, IsTableText (table s).toList parts ↔
        parts ≠ [] ∧ (∀ part ∈ parts, '.' ∉ part) ∧ ['.'].intercalate parts = s.toList) ∧
      (∀ cs parts rest more, IsTableText cs parts → StartsWithout continuesTable rest →
        StartsWithout continuesTable more → (table s).toList ++ rest = cs ++ more →
        cs = (table s).toList ∧ more = rest) ∧
      (∀ t, table t = table s ↔ t = s) ∧
      (isTableName s = true → table s = s) := by
  have hself := isTableText_table s
  refine ⟨fun parts => ?_, fun cs parts rest more hcs hrest hmore h => ?_, fun t => ?_,
    table_eq_self⟩
  · rw [← Text.splitAt_eq_iff]
    refine ⟨fun h => ?_, fun h => h ▸ hself⟩
    exact (hself.unique h (Text.startsWithout_nil _) (Text.startsWithout_nil _) rfl).2.1
  · obtain ⟨htext, -, hend⟩ := hself.unique hcs hrest hmore h
    exact ⟨htext.symm, hend.symm⟩
  · refine ⟨fun h => ?_, fun h => h ▸ rfl⟩
    have hparts := ((h ▸ isTableText_table t).unique hself (Text.startsWithout_nil _)
      (Text.startsWithout_nil _) rfl).2.1
    rw [← String.toList_inj, ← Text.intercalate_splitAt '.' t.toList, hparts,
      Text.intercalate_splitAt]

/-- The table whose first part has a backtick and ends in a backslash, and whose second part
is meant to end the statement. -/
theorem table_reads_back_hostile :
    IsTableText (table "a`\\.x; --").toList ["a`\\".toList, "x; --".toList] ∧
      table "db.views" = "db.views" :=
  ⟨((table_reads_back "a`\\.x; --").1 _).mpr (by decide),
    (table_reads_back "db.views").2.2.2 (by decide)⟩

example : table "a`\\.x; --" = "`a\\`\\\\`.`x; --`" := by decide

end Readership.Sql

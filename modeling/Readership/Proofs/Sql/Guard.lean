import Readership.Proofs.Sql.Lexis
import Readership.Proofs.Text.Case
import Readership.Proofs.Text.Search

/-!
# What the guard lets through

The guard is to let one reading statement through and nothing else
(`Sql.ReadsOnly`): one that begins with the word `SELECT` or `WITH`, goes on to
its end without a semicolon, and has neither of the words `INTO` and `FORMAT`
anywhere in its code.

What it looks for is less (`Sql.LooksReading`). It does not look at words but at
letters: those the text begins with, and those between two blanks. And it does
not look at the code but at what is left when nothing except single quotes
counts as a quote. Where there are only literals this is the code, and there
`Sql.passes_iff_of_onlyLiterals` says exactly what is let through. Elsewhere a
single quote in a comment or in a quoted name can hide a second statement, and a
tab does as well as a blank for the server but not for the guard
(`Sql.passes_not_readsOnly`).
-/

namespace Readership.Sql

/-! ## Code -/

/-- An outline with a blank in place of every comment. -/
def uncommented : List Char → List Char
  | [] => []
  | '-' :: '-' :: rest => ' ' :: uncommented rest
  | '/' :: '*' :: '*' :: '/' :: rest => ' ' :: uncommented rest
  | '/' :: '*' :: rest => ' ' :: uncommented rest
  | c :: rest => c :: uncommented rest

/-- **The code of a text**: what is neither quoted nor a comment. -/
def code (cs : List Char) : List Char :=
  uncommented (outline cs)

/-- Without comments there is nothing to replace. -/
theorem uncommented_eq_self {cs : List Char} (h : OnlyLiterals cs) : uncommented cs = cs := by
  induction cs using uncommented.induct with
  | case1 => rfl
  | case2 => exact absurd h not_onlyLiterals_lineComment
  | case3 => exact absurd h not_onlyLiterals_blockComment
  | case4 => exact absurd h not_onlyLiterals_blockComment
  | case5 c rest hline hclosed hopen ih =>
    rw [uncommented, ih h.tail]
    · exact hline
    · exact hclosed
    · exact hopen

/-! ## Statements -/

/-- **One statement**: no semicolon but at the end. -/
def OneStatement (cs : List Char) : Prop :=
  ∃ body semicolons, cs = body ++ semicolons ∧ ';' ∉ body ∧ ∀ c ∈ semicolons, c = ';'

/-- **A reading statement**, by the words of its code. -/
structure ReadsOnly (cs : List Char) : Prop where
  begins : ∃ word ∈ (words (code cs)).head?,
    Text.upper word = "SELECT".toList ∨ Text.upper word = "WITH".toList
  single : OneStatement (Text.trim (code cs))
  noInto : ∀ word ∈ words (code cs), Text.upper word ≠ "INTO".toList
  noFormat : ∀ word ∈ words (code cs), Text.upper word ≠ "FORMAT".toList

/-- **A keyword between two blanks**, in small or capital letters. -/
def Stands (keyword cs : List Char) : Prop :=
  ∃ before word after, cs = before ++ ' ' :: (word ++ ' ' :: after) ∧ Text.upper word = keyword

/-- **What the guard takes for a reading statement.** -/
structure LooksReading (cs : List Char) : Prop where
  begins : "SELECT".toList <+: Text.upper cs ∨ "WITH".toList <+: Text.upper cs
  single : OneStatement cs
  noInto : ¬ Stands "INTO".toList cs
  noFormat : ¬ Stands "FORMAT".toList cs

/-- A text is one statement if its semicolons are gone with those at its end. -/
theorem oneStatement_iff {cs : List Char} :
    OneStatement cs ↔ (dropSemicolons cs).contains ';' = false := by
  rw [← Bool.not_eq_true, List.contains_iff_mem, dropSemicolons]
  constructor
  · rintro ⟨body, semicolons, rfl, hbody, hall⟩
    rw [Text.dropTrailing_append_of_all body fun c hc => beq_iff_eq.mpr (hall c hc)]
    -- what is left of the body is the beginning of it
    obtain ⟨tail, htail, -⟩ := Text.exists_eq_append_dropTrailing (· == ';') body
    exact fun hmem => hbody (htail ▸ List.mem_append_left tail hmem)
  · intro hbody
    obtain ⟨tail, htail, hall⟩ := Text.exists_eq_append_dropTrailing (· == ';') cs
    exact ⟨_, tail, htail, hbody, fun c hc => beq_iff_eq.mp (hall c hc)⟩

/-- **Looking for a keyword** among capitals finds where it stands in the text,
since capitals are cut at the blanks of the text. -/
theorem occursIn_upper_iff (keyword cs : List Char) :
    Text.occursIn (' ' :: (keyword ++ [' '])) (Text.upper cs) = true ↔ Stands keyword cs := by
  rw [Text.occursIn_iff]
  constructor
  · rintro ⟨u, v, h⟩
    have hcapitals : Text.upper cs = u ++ ' ' :: (keyword ++ ' ' :: v) := by simp [← h]
    obtain ⟨before, behind, rfl, -, hbehind⟩ := Text.exists_of_upper_eq_append_blank hcapitals
    obtain ⟨word, after, rfl, hword, -⟩ := Text.exists_of_upper_eq_append_blank hbehind
    exact ⟨before, word, after, rfl, hword⟩
  · rintro ⟨before, word, after, rfl, rfl⟩
    refine ⟨Text.upper before, Text.upper after, ?_⟩
    have hblank : Text.upperChar ' ' = [' '] := rfl
    simp [hblank]

/-- The first test of the guard. -/
theorem begins_iff {capitals : List Char} :
    (!"SELECT".toList.isPrefixOf capitals && !"WITH".toList.isPrefixOf capitals) = false
      ↔ "SELECT".toList <+: capitals ∨ "WITH".toList <+: capitals := by
  rw [← List.isPrefixOf_iff_prefix, ← List.isPrefixOf_iff_prefix, Bool.and_eq_false_iff,
    Bool.not_eq_false', Bool.not_eq_false']

/-- **The guard lets through** what looks to it like a reading statement. -/
theorem refusal?_eq_none_iff {cs : List Char} :
    refusal? cs = none ↔ LooksReading (guarded cs) := by
  have hinto := occursIn_upper_iff "INTO".toList (guarded cs)
  have hformat := occursIn_upper_iff "FORMAT".toList (guarded cs)
  rw [refusal?]
  split_ifs with hother hwrites hchained hformatted
  · refine iff_of_false nofun fun h => ?_
    rw [begins_iff.mpr h.begins] at hother
    exact absurd hother (by decide)
  · exact iff_of_false nofun fun h => h.noInto (hinto.mp hwrites)
  · refine iff_of_false nofun fun h => ?_
    rw [oneStatement_iff.mp h.single] at hchained
    exact absurd hchained (by decide)
  · exact iff_of_false nofun fun h => h.noFormat (hformat.mp hformatted)
  · exact iff_of_true rfl ⟨begins_iff.mp (Bool.eq_false_iff.mpr hother),
      oneStatement_iff.mpr (Bool.eq_false_iff.mpr hchained),
      fun h => hwrites (hinto.mpr h), fun h => hformatted (hformat.mpr h)⟩

/-- **What the guard lets through of a text with literals only.** Its code begins
with the letters of `SELECT` or `WITH`, is one statement, and has neither keyword
between blanks. -/
theorem passes_iff_of_onlyLiterals {cs : List Char} (h : OnlyLiterals (outline cs)) :
    refusal? cs = none ↔ LooksReading (Text.trim (code cs)) := by
  rw [refusal?_eq_none_iff, guarded, code, uncommented_eq_self h,
    outline_eq_stripLiterals (.inr h)]

/-- A statement with escaped quotes, a semicolon in a literal and one at its end is
let through, as its code looks like `SELECT '' FROM t;`. -/
theorem passes_iff_of_onlyLiterals_escapedQuotes :
    OnlyLiterals (outline "SELECT 'it''s; \\' INTO ' FROM t;".toList)
      ∧ refusal? "SELECT 'it''s; \\' INTO ' FROM t;".toList = none := by
  have honly : OnlyLiterals (outline "SELECT 'it''s; \\' INTO ' FROM t;".toList) := by decide
  have hcode : Text.trim (code "SELECT 'it''s; \\' INTO ' FROM t;".toList)
      = "SELECT '' FROM t;".toList := by decide
  refine ⟨honly, (passes_iff_of_onlyLiterals honly).mpr ?_⟩
  rw [hcode]
  refine ⟨.inl (by decide), ⟨"SELECT '' FROM t".toList, [';'], rfl, by decide, by simp⟩, ?_, ?_⟩
  · rw [← occursIn_upper_iff]
    decide
  · rw [← occursIn_upper_iff]
    decide

/-- **What the guard lets through need not be one reading statement.** A quote in a
comment hides a second statement, a tab hides a keyword, and letters at the
beginning need not be the first word. -/
theorem passes_not_readsOnly :
    (refusal? "SELECT 1 /* ' */; DROP TABLE blog_views -- '".toList = none
        ∧ ¬ ReadsOnly "SELECT 1 /* ' */; DROP TABLE blog_views -- '".toList)
      ∧ (refusal? "SELECT a\tINTO\tb".toList = none ∧ ¬ ReadsOnly "SELECT a\tINTO\tb".toList)
      ∧ (refusal? "SELECTED".toList = none ∧ ¬ ReadsOnly "SELECTED".toList) := by
  refine ⟨⟨by decide, fun h => ?_⟩, ⟨by decide, fun h => ?_⟩, ⟨by decide, fun h => ?_⟩⟩
  · exact absurd (oneStatement_iff.mp h.single) (by decide)
  · exact h.noInto "INTO".toList (by decide) rfl
  · obtain ⟨word, hword, hbegins⟩ := h.begins
    have hfirst : (words (code "SELECTED".toList)).head? = some "SELECTED".toList := by decide
    rw [hfirst, Option.mem_some_iff] at hword
    exact absurd (hword ▸ hbegins) (by decide)

end Readership.Sql

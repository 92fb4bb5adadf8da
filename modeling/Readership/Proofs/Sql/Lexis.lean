import Mathlib.Data.List.Chain
import Readership.Sql.Guard
import Readership.Sql.Spelling

/-!
# Where the code of a text is

A server does not read everything in a statement as code. What stands between
single quotes is a literal, what stands between double quotes or backticks is a
name, and what follows two minus signs on a line or stands between `/*` and `*/`
is a comment. `Sql.outline` is a text without the insides of all of these, read
from left to right with the place of the reader as its only memory
(`Sql.Place`).

The guard knows only single quotes. For a text in which there is nothing else to
know, it sees the outline (`Sql.outline_eq_stripLiterals`): the two agree on
where every literal ends, whatever is escaped in it. Where there is a comment or
another quote, a single quote in it is taken for the beginning of a literal, and
from there on the two go separate ways.
-/

namespace Readership.Sql

/-! ## Reading -/

/-- **Where a reader is** in a text. -/
inductive Place where
  | code
  /-- In code, behind a minus sign. -/
  | dash
  /-- In code, behind a slash. -/
  | slash
  /-- Between quotes. -/
  | quoted (mark : Char)
  /-- Between quotes, behind a backslash. -/
  | escaped (mark : Char)
  /-- Behind a quote that ends what is quoted unless it is doubled. -/
  | closing (mark : Char)
  /-- In a comment that ends with the line. -/
  | line
  /-- In a comment that ends with a star and a slash. -/
  | block
  /-- In such a comment, behind a star. -/
  | star
deriving DecidableEq, Repr

/-- The place behind a character of code. -/
def Place.ofCode (c : Char) : Place :=
  if c = '\'' || c = '"' || c = '`' then .quoted c
  else if c = '-' then .dash
  else if c = '/' then .slash
  else .code

/-- What is left of a text from a place on. -/
def outlineFrom : Place → List Char → List Char
  | .closing mark, [] => [mark]
  | _, [] => []
  | .code, c :: rest => c :: outlineFrom (.ofCode c) rest
  | .dash, c :: rest => c :: outlineFrom (if c = '-' then .line else .ofCode c) rest
  | .slash, c :: rest => c :: outlineFrom (if c = '*' then .block else .ofCode c) rest
  | .quoted mark, c :: rest =>
    outlineFrom
      (if c = '\\' then .escaped mark else if c = mark then .closing mark else .quoted mark) rest
  | .escaped mark, _ :: rest => outlineFrom (.quoted mark) rest
  | .closing mark, c :: rest =>
    if c = mark then outlineFrom (.quoted mark) rest
    else mark :: c :: outlineFrom (.ofCode c) rest
  | .line, c :: rest =>
    if c = '\n' then c :: outlineFrom .code rest else outlineFrom .line rest
  | .block, c :: rest => outlineFrom (if c = '*' then .star else .block) rest
  | .star, c :: rest =>
    if c = '/' then '*' :: c :: outlineFrom .code rest
    else outlineFrom (if c = '*' then .star else .block) rest

/-- **A text without the insides** of its literals, quoted names and comments. -/
def outline (cs : List Char) : List Char :=
  outlineFrom .code cs

example : outline "SELECT 'it''s', \"a;b\" -- ; more\nFROM t /* ' */;".toList
    = "SELECT '', \"\" --\nFROM t /**/;".toList := by decide

/-! ## Words -/

/-- The characters of words: letters, digits and the underscore, and beyond ASCII
everything but white space. -/
def isWordChar (c : Char) : Bool :=
  isPlain c || (128 ≤ c.toNat && !Text.isBlank c)

/-- **The words of a text**, with white space or punctuation between them. -/
def words (cs : List Char) : List (List Char) :=
  (cs.splitOnP fun c => !isWordChar c).filter (!·.isEmpty)

/-! ## Texts with literals only -/

/-- Two characters that do not begin a comment together. -/
def NoComment (a b : Char) : Prop :=
  ¬ (a = '-' ∧ b = '-') ∧ ¬ (a = '/' ∧ b = '*')

instance (a b : Char) : Decidable (NoComment a b) :=
  inferInstanceAs (Decidable (_ ∧ _))

/-- **Nothing but literals is quoted**, and nothing is a comment. -/
def OnlyLiterals (cs : List Char) : Prop :=
  ('"' ∉ cs ∧ '`' ∉ cs) ∧ cs.IsChain NoComment

instance (cs : List Char) : Decidable (OnlyLiterals cs) :=
  inferInstanceAs (Decidable (_ ∧ _))

theorem onlyLiterals_cons {c : Char} {cs : List Char} :
    OnlyLiterals (c :: cs)
      ↔ (c ≠ '"' ∧ c ≠ '`') ∧ (∀ d ∈ cs.head?, NoComment c d) ∧ OnlyLiterals cs := by
  rw [OnlyLiterals, OnlyLiterals, List.mem_cons, List.mem_cons, not_or, not_or, List.isChain_cons,
    ← ne_eq, ← ne_eq, ne_comm, ne_comm (a := '`')]
  tauto

/-- Two minus signs begin a comment. -/
theorem not_onlyLiterals_lineComment {cs : List Char} : ¬ OnlyLiterals ('-' :: '-' :: cs) :=
  fun h => ((onlyLiterals_cons.mp h).2.1 '-' rfl).1 ⟨rfl, rfl⟩

/-- So do a slash and a star. -/
theorem not_onlyLiterals_blockComment {cs : List Char} : ¬ OnlyLiterals ('/' :: '*' :: cs) :=
  fun h => ((onlyLiterals_cons.mp h).2.1 '*' rfl).2 ⟨rfl, rfl⟩

theorem OnlyLiterals.tail {c : Char} {cs : List Char} (h : OnlyLiterals (c :: cs)) :
    OnlyLiterals cs :=
  (onlyLiterals_cons.mp h).2.2

/-! ## The guard and the outline -/

theorem stripOutside_cons_of_ne {c : Char} (h : c ≠ '\'') (rest : List Char) :
    stripOutside (c :: rest) = c :: stripOutside rest := by
  rw [stripOutside, if_neg h]

theorem stripInside_cons_of_ne {c : Char} (hslash : c ≠ '\\') (hquote : c ≠ '\'')
    (rest : List Char) : stripInside (c :: rest) = stripInside rest := by
  rw [stripInside]
  · exact hslash
  · exact hquote

/-- **What the guard does where a reader is**, as long as there are only literals.
The text in between is the character just passed if it may begin a comment. -/
inductive Place.Matches : Place → List Char → (List Char → List Char) → Prop where
  | code : Matches .code [] stripOutside
  | dash : Matches .dash ['-'] stripOutside
  | slash : Matches .slash ['/'] stripOutside
  | quoted : Matches (.quoted '\'') [] stripInside
  | escaped : Matches (.escaped '\'') [] stripHidden
  | closing : Matches (.closing '\'') [] stripAfterQuote

/-- A character of code takes the reader and the guard to matching places. -/
theorem Place.exists_matches_ofCode {c : Char} {t : List Char} (h : OnlyLiterals (c :: t)) :
    ∃ behind strip, (Place.ofCode c).Matches behind strip
      ∧ (∀ rest, stripOutside (c :: rest) = c :: strip rest) ∧ OnlyLiterals (behind ++ t) := by
  obtain ⟨⟨hdouble, htick⟩, -, ht⟩ := onlyLiterals_cons.mp h
  by_cases hquote : c = '\''
  · subst hquote
    exact ⟨[], stripInside, .quoted, fun rest => by rw [stripOutside, if_pos rfl], ht⟩
  have hstrip := stripOutside_cons_of_ne hquote
  by_cases hdash : c = '-'
  · subst hdash
    exact ⟨['-'], stripOutside, .dash, hstrip, h⟩
  by_cases hslash : c = '/'
  · subst hslash
    exact ⟨['/'], stripOutside, .slash, hstrip, h⟩
  · have hcode : Place.ofCode c = .code := by simp [ofCode, hquote, hdouble, htick, hdash, hslash]
    exact ⟨[], stripOutside, hcode ▸ .code, hstrip, ht⟩

/-- Of two texts with one first character either begins with it. -/
theorem exists_eq_cons_of_or {c : Char} {t a b : List Char} (h : t = c :: a ∨ t = c :: b) :
    ∃ t', t = c :: t' := by
  rcases h with rfl | rfl
  · exact ⟨a, rfl⟩
  · exact ⟨b, rfl⟩

/-- **The reader and the guard go together** from matching places on, if there are
only literals in what either of them leaves. -/
theorem outlineFrom_eq {p : Place} {behind : List Char} {strip : List Char → List Char}
    (hp : p.Matches behind strip) {cs t : List Char} (ht : t = strip cs ∨ t = outlineFrom p cs)
    (h : OnlyLiterals (behind ++ t)) : outlineFrom p cs = strip cs := by
  induction cs generalizing p behind strip t with
  | nil => cases hp <;> rfl
  | cons c rest ih =>
    -- in code both keep the character and go to matching places
    have hcode {t : List Char}
        (ht : t = stripOutside (c :: rest) ∨ t = c :: outlineFrom (.ofCode c) rest)
        (h : OnlyLiterals t) : c :: outlineFrom (.ofCode c) rest = stripOutside (c :: rest) := by
      obtain ⟨t', rfl⟩ := exists_eq_cons_of_or ht
      obtain ⟨behind, strip, hmatches, hstrip, hbehind⟩ := Place.exists_matches_ofCode h
      rw [hstrip] at ht ⊢
      rw [ih hmatches (ht.imp List.tail_eq_of_cons_eq List.tail_eq_of_cons_eq) hbehind]
    cases hp with
    | code => exact hcode ht h
    | dash =>
      -- a second minus sign would leave the beginning of a comment
      by_cases hdash : c = '-'
      · subst hdash
        obtain ⟨t', rfl⟩ := exists_eq_cons_of_or ht
        exact absurd h not_onlyLiterals_lineComment
      · have hfrom : outlineFrom .dash (c :: rest) = c :: outlineFrom (.ofCode c) rest := by
          rw [outlineFrom, if_neg hdash]
        rw [hfrom] at ht ⊢
        exact hcode ht h.tail
    | slash =>
      by_cases hstar : c = '*'
      · subst hstar
        obtain ⟨t', rfl⟩ := exists_eq_cons_of_or ht
        exact absurd h not_onlyLiterals_blockComment
      · have hfrom : outlineFrom .slash (c :: rest) = c :: outlineFrom (.ofCode c) rest := by
          rw [outlineFrom, if_neg hstar]
        rw [hfrom] at ht ⊢
        exact hcode ht h.tail
    | quoted =>
      by_cases hslash : c = '\\'
      · subst hslash
        exact ih .escaped ht h
      by_cases hquote : c = '\''
      · subst hquote
        exact ih .closing ht h
      · have hfrom : outlineFrom (.quoted '\'') (c :: rest) = outlineFrom (.quoted '\'') rest := by
          rw [outlineFrom, if_neg hslash, if_neg hquote]
        rw [hfrom, stripInside_cons_of_ne hslash hquote] at ht ⊢
        exact ih .quoted ht h
    | escaped => exact ih .quoted ht h
    | closing =>
      by_cases hquote : c = '\''
      · subst hquote
        exact ih .quoted ht h
      · have hfrom : outlineFrom (.closing '\'') (c :: rest)
            = '\'' :: c :: outlineFrom (.ofCode c) rest := by
          rw [outlineFrom, if_neg hquote]
        have hstrip : stripAfterQuote (c :: rest) = '\'' :: stripOutside (c :: rest) := by
          rw [stripAfterQuote, if_neg hquote, stripOutside_cons_of_ne hquote]
        rw [hfrom, hstrip] at ht ⊢
        obtain ⟨t', rfl⟩ := exists_eq_cons_of_or ht
        rw [hcode (ht.imp List.tail_eq_of_cons_eq List.tail_eq_of_cons_eq) h.tail]

/-- **Of a text with literals only the guard sees the outline**, if either of the
two has nothing else in it. -/
theorem outline_eq_stripLiterals {cs : List Char}
    (h : OnlyLiterals (stripLiterals cs) ∨ OnlyLiterals (outline cs)) :
    outline cs = stripLiterals cs := by
  rcases h with h | h
  · exact outlineFrom_eq .code (.inl rfl) h
  · exact outlineFrom_eq .code (.inr rfl) h

end Readership.Sql

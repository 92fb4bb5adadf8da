import Readership.Proofs.Sql.Expression
import Readership.Sql.Selection

/-!
# Texts and the expressions they are

The texts of selections are put together from pieces, and what each piece is
read as does not depend on where it stands, as long as what follows cannot be
taken for a part of it. For a value that is an opening parenthesis, for a test
anything but a closing one or a connective, and *or* may follow where *and* may
not. One rule for each way of putting pieces together (`IsTest.parens`,
`IsConjunction.cons`, …) then reads a text of any depth.
-/

namespace Readership.Sql

open Token
open Text (StartsWithout)

/-- What may follow a value: anything but an opening parenthesis, which would make
a column a function. -/
def EndsScalar : List Token → Prop
  | opening :: _ => False
  | _ => True

/-- What may follow alternatives: nothing, or a closing parenthesis. -/
def EndsDisjunction : List Token → Prop
  | [] => True
  | closing :: _ => True
  | _ => False

/-- What may follow requirements: that, or `OR`. -/
def EndsConjunction : List Token → Prop
  | keyword .or :: _ => True
  | ts => EndsDisjunction ts

/-- What may follow a test: that, or `AND`. -/
def EndsTest : List Token → Prop
  | keyword .and :: _ => True
  | ts => EndsConjunction ts

/-- **The text is a value.** -/
def IsScalar (s : String) (a : Scalar) : Prop :=
  ∃ ts, Spells s ts ∧ ∀ rest, EndsScalar rest → scalar? (ts ++ rest) = some (a, rest)

/-- **The text is a list of values**, up to a closing parenthesis. -/
def IsScalars (s : String) (list : List Scalar) : Prop :=
  ∃ ts, Spells s ts ∧ ∀ rest, scalars? (ts ++ closing :: rest) = some (list, rest)

/-- **The text is a test**, possibly negated. -/
def IsTest (s : String) (f : Formula) : Prop :=
  ∃ ts, Spells s ts ∧ ∀ rest, EndsTest rest → negation? (ts ++ rest) = some (f, rest)

/-- **The text is requirements**, joined by `AND`. -/
def IsConjunction (s : String) (f : Formula) : Prop :=
  ∃ ts, Spells s ts ∧ ∀ rest, EndsConjunction rest → conjunction? (ts ++ rest) = some (f, rest)

/-- **The text is alternatives**, joined by `OR`. -/
def IsDisjunction (s : String) (f : Formula) : Prop :=
  ∃ ts, Spells s ts ∧ ∀ rest, EndsDisjunction rest → disjunction? (ts ++ rest) = some (f, rest)

variable {s s' : String} {a b : Scalar} {list : List Scalar} {f g : Formula}

/-- **A whole text** that is alternatives is read as them. -/
theorem IsDisjunction.read?_eq (h : IsDisjunction s f) : read? s = some f := by
  obtain ⟨ts, hts, hread⟩ := h
  have hall := hread [] trivial
  rw [List.append_nil] at hall
  simp [read?, hts.tokens?_eq, hall]

/-! ## Values -/

theorem isScalar_null : IsScalar "NULL" .null :=
  ⟨_, spells_keyword .null, fun rest _ => by simp [scalar?]⟩

theorem isScalar_quoted (s : String) : IsScalar (quoted s) (.text s) :=
  ⟨_, spells_quoted s, fun rest _ => by simp [scalar?]⟩

/-- **An integer**, with its sign. -/
theorem isScalar_int (n : Int) : IsScalar (Numeral.ofInt n) (.int n) := by
  cases n with
  | ofNat n => exact ⟨_, spells_number n, fun rest _ => by simp [scalar?]⟩
  | negSucc n =>
    refine ⟨_, spellsClosed_minus.append_spells (spells_number (n + 1)), fun rest _ => ?_⟩
    simp [scalar?, Int.negSucc_eq]

/-- A column is not taken for a function. -/
theorem isScalar_column {w : String} (h : IsWord w) : IsScalar w (.column w) := by
  refine ⟨_, spells_word h, fun rest hrest => ?_⟩
  cases rest with
  | nil => simp [scalar?]
  | cons t rest =>
    cases t
    case opening => exact hrest.elim
    all_goals simp [scalar?]

theorem IsScalar.singleton (h : IsScalar s a) : IsScalars s [a] := by
  obtain ⟨ts, hts, hread⟩ := h
  refine ⟨ts, hts, fun rest => ?_⟩
  rw [scalars?, hread (closing :: rest) trivial]
  simp

/-- **One more value** in front of others. -/
theorem IsScalars.cons (h : IsScalar s a) (h' : IsScalars s' list) :
    IsScalars (s ++ ", " ++ s') (a :: list) := by
  obtain ⟨ts, hts, hread⟩ := h
  obtain ⟨ts', hts', hread'⟩ := h'
  have hcomma : SpellsClosed ", " [comma] := spellsClosed_comma.append spellsClosed_blank
  refine ⟨_, (hts.append_closed hcomma (by decide) rfl).append_spells hts', fun rest => ?_⟩
  -- what stands behind the comma is shorter than the whole, so it is read as well
  have htokens : ts ++ [comma] ++ ts' ++ closing :: rest
      = ts ++ comma :: (ts' ++ closing :: rest) := by simp
  rw [htokens, scalars?, hread (comma :: _) trivial]
  simp only [bind, Option.bind]
  rw [if_pos (by simp; omega), hread' rest]
  rfl

/-- **A function of values.** -/
theorem IsScalars.call {w : String} (hw : IsWord w) (h : IsScalars s list) :
    IsScalar (w ++ "(" ++ s ++ ")") (.call w list) := by
  obtain ⟨ts, hts, hread⟩ := h
  have hopen := (spells_word hw).append_closed spellsClosed_opening (by decide) rfl
  refine ⟨_, ((hopen.append_spells hts).append_closed spellsClosed_closing (by decide) rfl).spells,
    fun rest _ => ?_⟩
  have htokens : [word w] ++ [opening] ++ ts ++ [closing] ++ rest
      = word w :: opening :: (ts ++ closing :: rest) := by simp
  rw [htokens, scalar?, hread rest]
  rfl

/-! ## Tests -/

/-- What may follow a test may follow a value that ends it. -/
theorem EndsTest.endsScalar {rest : List Token} (h : EndsTest rest) : EndsScalar rest := by
  unfold EndsScalar
  split
  · exact h
  · trivial

/-- **A text that begins with a value** is a test, and no negation and no expression
between parentheses. -/
theorem negation?_of_scalar? {ts rest : List Token} (h : scalar? ts = some (a, rest)) :
    negation? ts = asked? a rest := by
  rw [negation?.eq_def]
  -- neither `NOT` nor a parenthesis begins a value
  split
  · simp [scalar?] at h
  · rw [test?.eq_def]
    split
    · simp [scalar?] at h
    · rw [h]
      rfl

/-- **A number on its own** is true or false. -/
theorem isTest_number (n : Nat) : IsTest (Numeral.ofNat n) (.constant (n != 0)) := by
  refine ⟨_, spells_number n, fun rest hrest => ?_⟩
  have hscalar : scalar? ([number n] ++ rest) = some (.int n, rest) := by simp [scalar?]
  have hasked : asked? (.int n) rest = some (.constant ((n : Int) != 0), rest) := by
    unfold asked?
    -- what may follow a test asks nothing of the number
    split
    · exact hrest.elim
    · exact hrest.elim
    · exact hrest.elim
    · exact hrest.elim
    · rfl
  rw [negation?_of_scalar? hscalar, hasked]
  congr 3
  simp [bne]

/-- **A relation** between two values. -/
theorem IsScalar.relation (h : IsScalar s a) (op : Relation) (h' : IsScalar s' b) :
    IsTest (s ++ " " ++ op.spelling ++ " " ++ s') (.relation op a b) := by
  obtain ⟨ts, hts, hread⟩ := h
  obtain ⟨ts', hts', hread'⟩ := h'
  have hend : Spells (" " ++ (op.spelling ++ " ") ++ s') ([] ++ [Token.relation op] ++ ts') :=
    (spellsClosed_blank.append (spellsClosed_relation op)).append_spells hts'
  have htext : s ++ " " ++ op.spelling ++ " " ++ s'
      = s ++ (" " ++ (op.spelling ++ " ") ++ s') := by simp [String.append_assoc]
  rw [htext]
  refine ⟨_, hts.append hend ?_, fun rest hrest => ?_⟩
  · rw [String.append_assoc, String.toList_append]
    exact rfl
  · have htokens : ts ++ ([] ++ [Token.relation op] ++ ts') ++ rest
        = ts ++ Token.relation op :: (ts' ++ rest) := by simp
    rw [htokens, negation?_of_scalar? (hread (Token.relation op :: _) trivial), asked?,
      hread' rest hrest.endsScalar]
    rfl

/-- A value and keywords behind it, as tokens. -/
theorem IsScalar.phrase (h : IsScalar s a) (ks : List Keyword) :
    ∃ ts, Spells (s ++ phrase ks) (ts ++ ks.map keyword) ∧
      ∀ rest, EndsScalar (ks.map keyword ++ rest) →
        negation? (ts ++ ks.map keyword ++ rest) = asked? a (ks.map keyword ++ rest) := by
  obtain ⟨ts, hts, hread⟩ := h
  refine ⟨ts, hts.append (spells_phrase ks) (startsWithout_phrase ks), fun rest hrest => ?_⟩
  rw [List.append_assoc, negation?_of_scalar? (hread _ hrest)]

/-- **Asking for null.** -/
theorem IsScalar.isNull (h : IsScalar s a) : IsTest (s ++ " IS NULL") (.isNull a) := by
  obtain ⟨ts, hts, hread⟩ := h.phrase [.is, .null]
  exact ⟨_, hts, fun rest _ => hread rest trivial⟩

/-- **Asking for a value.** -/
theorem IsScalar.isNotNull (h : IsScalar s a) :
    IsTest (s ++ " IS NOT NULL") (.not (.isNull a)) := by
  obtain ⟨ts, hts, hread⟩ := h.phrase [.is, .not, .null]
  exact ⟨_, hts, fun rest _ => hread rest trivial⟩

/-- **Asking whether a value is among others.** -/
theorem IsScalar.isIn (h : IsScalar s a) (h' : IsScalars s' list) :
    IsTest (s ++ " IN (" ++ s' ++ ")") (.isIn a list) := by
  obtain ⟨ts, hts, hread⟩ := h.phrase [.isIn]
  obtain ⟨ts', hts', hread'⟩ := h'
  have hopen : SpellsClosed " (" [opening] := spellsClosed_blank.append spellsClosed_opening
  have htext : s ++ " IN (" ++ s' ++ ")" = s ++ Sql.phrase [.isIn] ++ " (" ++ s' ++ ")" := by
    have hword : " IN (" = Sql.phrase [.isIn] ++ " (" := rfl
    rw [hword, ← String.append_assoc]
  rw [htext]
  refine ⟨_, (((hts.append_closed hopen (by decide) rfl).append_spells hts').append_closed
    spellsClosed_closing (by decide) rfl).spells, fun rest _ => ?_⟩
  have htokens : ts ++ [Keyword.isIn].map keyword ++ [opening] ++ ts' ++ [closing] ++ rest
      = ts ++ [Keyword.isIn].map keyword ++ (opening :: (ts' ++ closing :: rest)) := by simp
  rw [htokens, hread _ trivial]
  show asked? a (keyword .isIn :: opening :: (ts' ++ closing :: rest)) = _
  rw [asked?, hread' rest]
  rfl

/-! ## Connectives -/

/-- A test alone is requirements. -/
theorem IsTest.isConjunction (h : IsTest s f) : IsConjunction s f := by
  obtain ⟨ts, hts, hread⟩ := h
  refine ⟨ts, hts, fun rest hrest => ?_⟩
  have hends : EndsTest rest := by
    unfold EndsTest
    split
    · trivial
    · exact hrest
  rw [conjunction?, hread rest hends]
  simp only [bind, Option.bind]
  split
  · exact hrest.elim
  · rfl

/-- Requirements alone are alternatives. -/
theorem IsConjunction.isDisjunction (h : IsConjunction s f) : IsDisjunction s f := by
  obtain ⟨ts, hts, hread⟩ := h
  refine ⟨ts, hts, fun rest hrest => ?_⟩
  have hends : EndsConjunction rest := by
    unfold EndsConjunction
    split
    · trivial
    · exact hrest
  rw [disjunction?, hread rest hends]
  simp only [bind, Option.bind]
  split
  · exact hrest.elim
  · rfl

theorem spellsClosed_and : SpellsClosed " AND " [keyword .and] :=
  (spells_phrase [.and]).append_closed spellsClosed_blank (by decide) rfl

theorem spellsClosed_or : SpellsClosed " OR " [keyword .or] :=
  (spells_phrase [.or]).append_closed spellsClosed_blank (by decide) rfl

/-- **One more requirement** in front of others. -/
theorem IsConjunction.cons (h : IsTest s f) (h' : IsConjunction s' g) :
    IsConjunction (s ++ " AND " ++ s') (.and f g) := by
  obtain ⟨ts, hts, hread⟩ := h
  obtain ⟨ts', hts', hread'⟩ := h'
  refine ⟨_, (hts.append_closed spellsClosed_and (by decide) rfl).append_spells hts',
    fun rest hrest => ?_⟩
  have htokens : ts ++ [keyword .and] ++ ts' ++ rest = ts ++ keyword .and :: (ts' ++ rest) := by
    simp
  rw [htokens, conjunction?, hread (keyword .and :: _) trivial]
  simp only [bind, Option.bind]
  rw [if_pos (by simp; omega), hread' rest hrest]
  rfl

/-- **One more alternative** in front of others. -/
theorem IsDisjunction.cons (h : IsConjunction s f) (h' : IsDisjunction s' g) :
    IsDisjunction (s ++ " OR " ++ s') (.or f g) := by
  obtain ⟨ts, hts, hread⟩ := h
  obtain ⟨ts', hts', hread'⟩ := h'
  refine ⟨_, (hts.append_closed spellsClosed_or (by decide) rfl).append_spells hts',
    fun rest hrest => ?_⟩
  have htokens : ts ++ [keyword .or] ++ ts' ++ rest = ts ++ keyword .or :: (ts' ++ rest) := by
    simp
  rw [htokens, disjunction?, hread (keyword .or :: _) trivial]
  simp only [bind, Option.bind]
  rw [if_pos (by simp; omega), hread' rest hrest]
  rfl

/-- **Parentheses** make a test of anything. -/
theorem IsDisjunction.parens (h : IsDisjunction s f) : IsTest ("(" ++ s ++ ")") f := by
  obtain ⟨ts, hts, hread⟩ := h
  refine ⟨_, ((spellsClosed_opening.append_spells hts).append_closed spellsClosed_closing
    (by decide) rfl).spells, fun rest _ => ?_⟩
  have htokens : [opening] ++ ts ++ [closing] ++ rest = opening :: (ts ++ closing :: rest) := by
    simp
  rw [htokens, negation?, test?, hread (closing :: rest) trivial]
  · rfl
  · simp

/-- **The opposite** of an expression between parentheses. -/
theorem IsDisjunction.negation (h : IsDisjunction s f) :
    IsTest ("NOT (" ++ s ++ ")") (.not f) := by
  obtain ⟨ts, hts, hread⟩ := h.parens
  have hnot : SpellsClosed "NOT " [keyword .not] :=
    (spells_keyword .not).append_closed spellsClosed_blank (by decide) rfl
  have htext : "NOT (" ++ s ++ ")" = "NOT " ++ ("(" ++ s ++ ")") := by
    rw [← String.append_assoc, ← String.append_assoc]
    rfl
  rw [htext]
  refine ⟨_, hnot.append_spells hts, fun rest hrest => ?_⟩
  rw [List.append_assoc, List.singleton_append, negation?, hread rest hrest]
  rfl

end Readership.Sql

import Readership.Proofs.Sql.Fragment

/-!
# Literals that are closed

The guard goes through a text once, with no other memory than where it is: outside a
literal, inside one, behind a backslash there, or behind a quote that may end the literal
(`Sql.Mode`). So a text is read in two parts, the second from where the first one left off
(`Sql.Mode.strip_append`), and what a text without quotes comes to behind another text is
decided by whether the literals there are closed (`Sql.Closed`). If they are, it stays as
it is (`Sql.stripLiterals_append_of_closed`). If not, nothing of it is left
(`Sql.stripLiterals_append_of_not_closed`).

The last character that is left is the last character of the text, or a quote
(`Sql.getLast?_stripLiterals`). So neither a semicolon nor white space comes to stand at
the end because something before it was taken out.
-/

namespace Readership.Sql

/-! ## Reading character by character -/

/-- **Where the guard is** in a text. -/
inductive Mode where
  | outside
  | inside
  /-- Inside a literal, behind a backslash. -/
  | hidden
  /-- Behind a quote that ends a literal unless it is doubled. -/
  | afterQuote
deriving DecidableEq, Repr

namespace Mode

/-- What is left of a text from here on. -/
def strip : Mode → List Char → List Char
  | outside => stripOutside
  | inside => stripInside
  | hidden => stripHidden
  | afterQuote => stripAfterQuote

/-- Where the guard is behind one more character. -/
def next : Mode → Char → Mode
  | outside, c => if c = '\'' then inside else outside
  | inside, c => if c = '\\' then hidden else if c = '\'' then afterQuote else inside
  | hidden, _ => inside
  | afterQuote, c => if c = '\'' then inside else outside

/-- What one more character lets the guard keep. A quote that ends a literal is kept
together with the character that shows that it does. -/
def keeps : Mode → Char → List Char
  | outside, c => [c]
  | inside, _ => []
  | hidden, _ => []
  | afterQuote, c => if c = '\'' then [] else ['\'', c]

/-- Where the guard is behind a text. -/
def after (m : Mode) (cs : List Char) : Mode :=
  cs.foldl next m

/-- What a text lets the guard keep. -/
def kept : Mode → List Char → List Char
  | _, [] => []
  | m, c :: cs => m.keeps c ++ kept (m.next c) cs

/-- **One character and the rest.** -/
theorem strip_cons (m : Mode) (c : Char) (rest : List Char) :
    m.strip (c :: rest) = m.keeps c ++ (m.next c).strip rest := by
  cases m with
  | outside =>
    by_cases hquote : c = '\'' <;> simp [strip, keeps, next, stripOutside, hquote]
  | inside =>
    by_cases hslash : c = '\\'
    · subst hslash
      rfl
    by_cases hquote : c = '\''
    · subst hquote
      rfl
    · simp [strip, keeps, next, hslash, hquote, stripInside_cons_of_ne hslash hquote]
  | hidden => rfl
  | afterQuote =>
    by_cases hquote : c = '\'' <;> simp [strip, keeps, next, stripAfterQuote, hquote]

/-- **A text in two parts.** -/
theorem strip_append (m : Mode) (cs rest : List Char) :
    m.strip (cs ++ rest) = m.kept cs ++ (m.after cs).strip rest := by
  induction cs generalizing m with
  | nil => rfl
  | cons c cs ih =>
    rw [List.cons_append, strip_cons, ih, kept, List.append_assoc]
    rfl

theorem after_concat (m : Mode) (cs : List Char) (c : Char) :
    m.after (cs ++ [c]) = (m.after cs).next c := by
  rw [after, List.foldl_append]
  rfl

theorem kept_concat (m : Mode) (cs : List Char) (c : Char) :
    m.kept (cs ++ [c]) = m.kept cs ++ (m.after cs).keeps c := by
  induction cs generalizing m with
  | nil => exact List.append_nil _
  | cons d cs ih =>
    rw [List.cons_append, kept, ih, kept, List.append_assoc]
    rfl

/-- Inside a literal nothing is left of a text without quotes. -/
theorem strip_eq_nil {m : Mode} (hm : m = inside ∨ m = hidden) {cs : List Char}
    (h : '\'' ∉ cs) : m.strip cs = [] := by
  induction cs generalizing m with
  | nil => rcases hm with rfl | rfl <;> rfl
  | cons c cs ih =>
    rw [List.mem_cons, not_or] at h
    have hquote : c ≠ '\'' := Ne.symm h.1
    have hnext : m.next c = inside ∨ m.next c = hidden := by
      rcases hm with rfl | rfl
      · by_cases hslash : c = '\\' <;> simp [next, hslash, hquote]
      · exact .inl rfl
    rw [strip_cons, ih hnext h.2]
    rcases hm with rfl | rfl <;> rfl

/-- Outside of literals all of it is left, behind the quote that ends a literal. -/
theorem strip_eq_append {m : Mode} (hm : m = outside ∨ m = afterQuote) {cs : List Char}
    (h : '\'' ∉ cs) : m.strip cs = m.strip [] ++ cs := by
  rcases hm with rfl | rfl
  · exact stripLiterals_eq_self h
  · cases cs with
    | nil => rfl
    | cons c cs =>
      rw [List.mem_cons, not_or] at h
      show stripAfterQuote (c :: cs) = '\'' :: c :: cs
      rw [stripAfterQuote, if_neg (Ne.symm h.1)]
      exact congrArg ('\'' :: c :: ·) (stripLiterals_eq_self h.2)

end Mode

/-! ## Closed literals -/

/-- **All literals are closed**: behind the text the guard is outside of them, or behind a
quote that ends the last one. -/
def Closed (cs : List Char) : Prop :=
  Mode.outside.after cs = .outside ∨ Mode.outside.after cs = .afterQuote

instance (cs : List Char) : Decidable (Closed cs) :=
  inferInstanceAs (Decidable (_ ∨ _))

example : Closed "SELECT 'it''s', 'a\\'b'".toList ∧ ¬ Closed "SELECT 'it''s', 'a\\'".toList := by
  decide

theorem not_closed_iff {cs : List Char} :
    ¬ Closed cs ↔ Mode.outside.after cs = .inside ∨ Mode.outside.after cs = .hidden := by
  rw [Closed]
  cases Mode.outside.after cs <;> decide

/-- **Behind closed literals** a text without quotes stays as it is. -/
theorem stripLiterals_append_of_closed {cs rest : List Char} (h : Closed cs) (hrest : '\'' ∉ rest) :
    stripLiterals (cs ++ rest) = stripLiterals cs ++ rest := by
  have hcs := Mode.outside.strip_append cs []
  rw [List.append_nil] at hcs
  show Mode.outside.strip (cs ++ rest) = Mode.outside.strip cs ++ rest
  rw [Mode.strip_append, Mode.strip_eq_append h hrest, hcs, List.append_assoc]

/-- **In a literal that is not closed** nothing is left of it. -/
theorem stripLiterals_append_of_not_closed {cs rest : List Char} (h : ¬ Closed cs)
    (hrest : '\'' ∉ rest) : stripLiterals (cs ++ rest) = stripLiterals cs := by
  have hcs := Mode.outside.strip_append cs []
  rw [List.append_nil] at hcs
  show Mode.outside.strip (cs ++ rest) = Mode.outside.strip cs
  rw [Mode.strip_append, Mode.strip_eq_nil (not_closed_iff.mp h) hrest, hcs,
    Mode.strip_eq_nil (not_closed_iff.mp h) List.not_mem_nil]

/-- **A text without quotes closes no literal** and opens none. -/
theorem closed_append_iff {cs rest : List Char} (h : '\'' ∉ rest) :
    Closed (cs ++ rest) ↔ Closed cs := by
  induction rest using List.reverseRecOn with
  | nil => rw [List.append_nil]
  | append_singleton rest c ih =>
    rw [List.mem_append, not_or, List.mem_singleton] at h
    rw [← ih h.1, ← List.append_assoc, Closed, Closed, Mode.after_concat]
    have hquote : c ≠ '\'' := Ne.symm h.2
    by_cases hslash : c = '\\' <;> cases Mode.outside.after (cs ++ rest) <;>
      simp [Mode.next, hslash, hquote]

/-- Neither does one in front. -/
theorem append_closed_iff {cs rest : List Char} (h : '\'' ∉ cs) :
    Closed (cs ++ rest) ↔ Closed rest := by
  induction cs with
  | nil => rw [List.nil_append]
  | cons c cs ih =>
    rw [List.mem_cons, not_or] at h
    rw [← ih h.2, List.cons_append, Closed, Closed, Mode.after, List.foldl_cons, Mode.next,
      if_neg (Ne.symm h.1), Mode.after]

/-! ## The ends of what is left -/

/-- The first character is left in any case. -/
theorem head?_stripLiterals (cs : List Char) : (stripLiterals cs).head? = cs.head? := by
  cases cs with
  | nil => rfl
  | cons c cs => rw [stripLiterals, stripOutside, List.head?_cons, List.head?_cons]

/-- The last character that is kept is the last one, or the quote that begins or ends the
last literal. -/
theorem Mode.getLast?_kept (cs : List Char) :
    (outside.kept cs).getLast?
      = if outside.after cs = outside then cs.getLast? else some '\'' := by
  induction cs using List.reverseRecOn with
  | nil => rfl
  | append_singleton cs c ih =>
    rw [kept_concat, after_concat, List.getLast?_append, ih, List.getLast?_concat]
    by_cases hslash : c = '\\' <;> by_cases hquote : c = '\'' <;>
      cases outside.after cs <;> simp_all [keeps, next]

/-- **The last character that is left** is the last character of the text or a quote. -/
theorem getLast?_stripLiterals (cs : List Char) :
    (stripLiterals cs).getLast?
      = if Mode.outside.after cs = .outside then cs.getLast? else some '\'' := by
  have hcs := Mode.outside.strip_append cs []
  rw [List.append_nil] at hcs
  rw [show stripLiterals cs = Mode.outside.strip cs from rfl, hcs, List.getLast?_append,
    Mode.getLast?_kept]
  cases Mode.outside.after cs <;> rfl

end Readership.Sql

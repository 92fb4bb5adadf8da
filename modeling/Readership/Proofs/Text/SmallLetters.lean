import Mathlib.Data.List.Infix
import Mathlib.Data.List.TakeWhile
import Readership.Text.Case

/-!
# Small letters of a piece of a text

The small form of a character is its own affair, the capital sigma apart, which is `ς` at the
end of a word and `σ` elsewhere. So a text in small letters can be taken apart if each piece
is given what stands around it (`lowerBetween_append`), and a piece has the same small
letters in its surroundings as on its own exactly if its sigmas have the same forms there
(`lowerBetween_eq_lower_iff`).

The surroundings matter only where the piece leaves a form open. It does not if a letter
follows the sigma in the piece, if the character before it is no letter, or if that one is a
letter and the one behind it is none (`SettlesForm`), where characters that are ignorable for
case do not count. The small letters of a text are found in those of every text that it
is part of if all its sigmas are settled, and only then (`lower_isInfix_iff`).
-/

namespace Readership.Text

variable {before before' after after' cs : List Char} {c x y : Char}

/-! ## The sigma at the end of a word -/

/-- Whether the first character that is not ignorable for case has case, if there is one. -/
def leadCased? (cs : List Char) : Option Bool :=
  (cs.find? fun c => !inRanges caseIgnorableRanges c).map (inRanges casedRanges)

theorem startsCased_eq (cs : List Char) : startsCased cs = (leadCased? cs).getD false := by
  rw [startsCased, leadCased?, List.find?_not_eq_head?_dropWhile]
  cases cs.dropWhile (inRanges caseIgnorableRanges) <;> rfl

theorem leadCased?_append (a b : List Char) :
    leadCased? (a ++ b) = (leadCased? a).or (leadCased? b) := by
  rw [leadCased?, List.find?_append, Option.map_or]
  rfl

/-- Whether a capital sigma is final that has `before` before it, last character first, and
`after` behind it. -/
def isFinal (before after : List Char) : Bool :=
  startsCased before && !startsCased after

/-- **What settles the form of a sigma**, whatever stands around the piece that it is in. -/
inductive SettlesForm (before after : List Char) : Prop where
  /-- A letter follows, so the sigma is not final. -/
  | followed (h : leadCased? after = some true)
  /-- No letter stands before, so it is not final either. -/
  | unpreceded (h : leadCased? before = some false)
  /-- A letter stands before and none follows, so it is final. -/
  | final (hbefore : leadCased? before = some true) (hafter : leadCased? after = some false)

theorem settlesForm_iff : SettlesForm before after ↔ leadCased? after = some true
    ∨ leadCased? before = some false
    ∨ leadCased? before = some true ∧ leadCased? after = some false := by
  constructor
  · rintro (h | h | ⟨hbefore, hafter⟩)
    exacts [.inl h, .inr (.inl h), .inr (.inr ⟨hbefore, hafter⟩)]
  · rintro (h | h | ⟨hbefore, hafter⟩)
    exacts [.followed h, .unpreceded h, .final hbefore hafter]

instance (before after : List Char) : Decidable (SettlesForm before after) :=
  decidable_of_iff' _ settlesForm_iff

/-- **A settled sigma has one form** in all surroundings. -/
theorem isFinal_append (h : SettlesForm before after) (before' after' : List Char) :
    isFinal (before ++ before') (after ++ after') = isFinal before after := by
  simp only [isFinal, startsCased_eq, leadCased?_append]
  cases h with
  | followed h => simp [h]
  | unpreceded h => simp [h]
  | final hbefore hafter => simp [hbefore, hafter]

/-- **Any other sigma has two forms**: a letter at one end of the piece changes it. -/
theorem isFinal_ne_of_not_settlesForm (h : ¬ SettlesForm before after)
    (hx : leadCased? [x] = some true) (hy : leadCased? [y] = some true) :
    isFinal (before ++ [x]) after ≠ isFinal before after
      ∨ isFinal before (after ++ [y]) ≠ isFinal before after := by
  simp only [isFinal, startsCased_eq, leadCased?_append, hx, hy]
  match hbefore : leadCased? before, hafter : leadCased? after with
  | _, some true => exact absurd (.followed hafter) h
  | some false, _ => exact absurd (.unpreceded hbefore) h
  | some true, some false => exact absurd (.final hbefore hafter) h
  | some true, none => exact .inr (by decide)
  | none, some false => exact .inl (by decide)
  | none, none => exact .inl (by decide)

/-! ## Pieces in their surroundings -/

/-- The small form of a character between others. -/
def formBetween (before : List Char) (c : Char) (after : List Char) : List Char :=
  if c = 'Σ' then [if isFinal before after then 'ς' else 'σ'] else lowerChar c

/-- **The small letters of a piece of a text** that has `before` before it, last character
first, and `after` behind it. -/
def lowerBetween (before : List Char) : List Char → List Char → List Char
  | [], _ => []
  | c :: rest, after =>
    formBetween before c (rest ++ after) ++ lowerBetween (c :: before) rest after

/-- With nothing behind it, a piece has the small letters of the rest of a text. -/
theorem lowerFrom_eq_lowerBetween (before cs : List Char) :
    lowerFrom before cs = lowerBetween before cs [] := by
  induction cs generalizing before with
  | nil => rfl
  | cons c rest ih =>
    rw [lowerFrom, lowerBetween, ih, List.append_nil]
    rfl

theorem lower_eq_lowerBetween (cs : List Char) : lower cs = lowerBetween [] cs [] :=
  lowerFrom_eq_lowerBetween [] cs

/-- **Two pieces have their small letters one after the other**, each between what is around
it. -/
theorem lowerBetween_append (before a b after : List Char) :
    lowerBetween before (a ++ b) after
      = lowerBetween before a (b ++ after) ++ lowerBetween (a.reverse ++ before) b after := by
  induction a generalizing before with
  | nil => rfl
  | cons c a ih =>
    rw [List.cons_append, lowerBetween, lowerBetween, ih, List.append_assoc, List.append_assoc,
      List.reverse_cons, List.append_assoc, List.singleton_append]

theorem length_formBetween (before after before' after' : List Char) (c : Char) :
    (formBetween before c after).length = (formBetween before' c after').length := by
  rw [formBetween, formBetween]
  split <;> rfl

/-- The number of small letters is the same in all surroundings. -/
theorem length_lowerBetween (before after before' after' cs : List Char) :
    (lowerBetween before cs after).length = (lowerBetween before' cs after').length := by
  induction cs generalizing before before' with
  | nil => rfl
  | cons c rest ih =>
    rw [lowerBetween, lowerBetween, List.length_append, List.length_append, ih _ (c :: before'),
      length_formBetween before _ before' (rest ++ after')]

/-- Only the form of a sigma depends on what is around it. -/
theorem formBetween_eq_iff :
    formBetween before c after = formBetween before' c after'
      ↔ (c = 'Σ' → isFinal before after = isFinal before' after') := by
  by_cases hc : c = 'Σ'
  · rw [formBetween, formBetween, if_pos hc, if_pos hc, forall_prop_of_true hc]
    cases isFinal before after <;> cases isFinal before' after' <;> decide
  · rw [formBetween, formBetween, if_neg hc, if_neg hc]
    exact iff_of_true rfl fun h => absurd h hc

/-- **A piece keeps its small letters** between others exactly if its sigmas keep their
forms. -/
theorem lowerBetween_eq_iff :
    lowerBetween before cs after = lowerBetween before' cs after'
      ↔ ∀ u v, cs = u ++ 'Σ' :: v → isFinal (u.reverse ++ before) (v ++ after)
          = isFinal (u.reverse ++ before') (v ++ after') := by
  induction cs generalizing before before' with
  | nil => exact iff_of_true rfl fun u v h => by simp at h
  | cons c rest ih =>
    have hlength := length_formBetween before (rest ++ after) before' (rest ++ after') c
    rw [lowerBetween, lowerBetween, List.append_eq_append_iff_of_size_eq_left hlength,
      formBetween_eq_iff, ih]
    constructor
    · rintro ⟨hfirst, hrest⟩ u v h
      -- the sigma is the first character or one of the rest
      obtain ⟨rfl, h⟩ | ⟨u, rfl, h⟩ := List.cons_eq_append_iff.mp h
      · obtain ⟨rfl, rfl⟩ := List.cons.inj h
        exact hfirst rfl
      · have hlater := hrest u v (List.cons.inj h).2
        rwa [List.reverse_cons, List.append_assoc, List.append_assoc]
    · intro h
      refine ⟨fun hc => h [] rest (by rw [hc]; rfl), fun u v hrest => ?_⟩
      have hlater := h (c :: u) v (by rw [hrest]; rfl)
      rwa [List.reverse_cons, List.append_assoc, List.append_assoc] at hlater

/-- The places of a character, by their numbers. -/
theorem forall_place_iff {P : List Char → List Char → Prop} :
    (∀ u v, cs = u ++ c :: v → P u v)
      ↔ ∀ i < cs.length, cs[i]? = some c → P (cs.take i) (cs.drop (i + 1)) := by
  constructor
  · intro h i hi hc
    have hget : cs[i] = c := (List.getElem?_eq_some_iff.mp hc).2
    exact h _ _ (by rw [← hget, List.cons_getElem_drop_succ, List.take_append_drop])
  · rintro h u v rfl
    simpa using h u.length (by simp) (by simp)

/-- **A piece keeps its forms** between others if each capital sigma in it has the form there
that it has in the piece alone. -/
def KeepsForms (before cs after : List Char) : Prop :=
  ∀ u v, cs = u ++ 'Σ' :: v →
    isFinal (u.reverse ++ before) (v ++ after) = isFinal u.reverse v

instance (before cs after : List Char) : Decidable (KeepsForms before cs after) :=
  decidable_of_iff' _ forall_place_iff

theorem lowerBetween_eq_lower_iff :
    lowerBetween before cs after = lower cs ↔ KeepsForms before cs after := by
  rw [lower_eq_lowerBetween, lowerBetween_eq_iff, KeepsForms]
  simp only [List.append_nil]

/-- **The small letters of a piece** that keeps its forms are among those of the text. -/
theorem lower_isInfix {a b : List Char} (h : KeepsForms a.reverse cs b) :
    lower cs <:+: lower (a ++ cs ++ b) := by
  refine ⟨lowerBetween [] a (cs ++ b), lowerBetween (a ++ cs).reverse b [], ?_⟩
  rw [lower_eq_lowerBetween (a ++ cs ++ b), lowerBetween_append, lowerBetween_append,
    List.append_nil, List.append_nil, List.append_nil, lowerBetween_eq_lower_iff.mpr h]

/-! ## Texts that are found everywhere -/

/-- **A settled text**: in whatever it is written, its sigmas have the same forms. -/
def IsSettled (cs : List Char) : Prop :=
  ∀ u v, cs = u ++ 'Σ' :: v → SettlesForm u.reverse v

instance : DecidablePred IsSettled :=
  fun _ => decidable_of_iff' _ forall_place_iff

/-- Without a capital sigma there is nothing to settle. -/
theorem isSettled_of_not_mem (h : 'Σ' ∉ cs) : IsSettled cs := by
  rintro u v rfl
  exact absurd (List.mem_append_right u List.mem_cons_self) h

/-- A settled text keeps its forms everywhere. -/
theorem IsSettled.keepsForms (h : IsSettled cs) (before after : List Char) :
    KeepsForms before cs after :=
  fun u v hcs => isFinal_append (h u v hcs) before after

/-- **A small letter**: a letter that is its own small form. -/
structure IsSmallLetter (x : Char) : Prop where
  cased : leadCased? [x] = some true
  ne_sigma : x ≠ 'Σ'
  small : lowerChar x = [x]

/-- There are at least two small letters. -/
theorem exists_isSmallLetter_ne (o : Option Char) : ∃ x, IsSmallLetter x ∧ o ≠ some x := by
  by_cases ho : o = some 'a'
  · exact ⟨'b', ⟨by decide +kernel, by decide, by decide⟩, by rw [ho]; decide⟩
  · exact ⟨'a', ⟨by decide +kernel, by decide, by decide⟩, ho⟩

theorem IsSmallLetter.lowerBetween_singleton (hx : IsSmallLetter x) (before after : List Char) :
    lowerBetween before [x] after = [x] := by
  rw [lowerBetween, formBetween, if_neg hx.ne_sigma, hx.small]
  rfl

/-- Behind a character that it does not begin with, a text is found in one of its length only
if it is that. -/
theorem eq_of_infix_cons {l l' : List Char} (h : l <:+: x :: l') (hlength : l.length = l'.length)
    (hx : l.head? ≠ some x) : l = l' := by
  obtain hprefix | hinfix := List.infix_cons_iff.mp h
  · cases l with
    | nil => exact (List.eq_nil_of_length_eq_zero hlength.symm).symm
    | cons d l => exact absurd (congrArg some (List.cons_prefix_cons.mp hprefix).1) hx
  · exact hinfix.eq_of_length hlength

/-- And so before a character that it does not end with. -/
theorem eq_of_infix_concat {l l' : List Char} (h : l <:+: l' ++ [x])
    (hlength : l.length = l'.length) (hx : l.getLast? ≠ some x) : l = l' := by
  have hreverse : l.reverse <:+: x :: l'.reverse := by
    rw [← List.reverse_concat, List.reverse_infix]
    exact h
  exact List.reverse_injective (eq_of_infix_cons hreverse (by simpa using hlength)
    (by rwa [List.head?_reverse]))

/-- What is found behind a small letter, which it does not begin with, keeps its forms. -/
theorem keepsForms_of_lower_isInfix_cons (h : lower cs <:+: lower (x :: cs))
    (hx : IsSmallLetter x) (hfirst : (lower cs).head? ≠ some x) : KeepsForms [x] cs [] := by
  rw [← List.singleton_append, lower_eq_lowerBetween (_ ++ cs), lowerBetween_append,
    hx.lowerBetween_singleton] at h
  rw [← lowerBetween_eq_lower_iff]
  refine (eq_of_infix_cons h ?_ hfirst).symm
  rw [lower_eq_lowerBetween]
  exact length_lowerBetween _ _ _ _ cs

/-- What is found before a small letter, which it does not end with, keeps its forms. -/
theorem keepsForms_of_lower_isInfix_concat (h : lower cs <:+: lower (cs ++ [x]))
    (hx : IsSmallLetter x) (hlast : (lower cs).getLast? ≠ some x) : KeepsForms [] cs [x] := by
  rw [lower_eq_lowerBetween (cs ++ _), lowerBetween_append, hx.lowerBetween_singleton] at h
  rw [← lowerBetween_eq_lower_iff]
  refine (eq_of_infix_concat h ?_ hlast).symm
  rw [lower_eq_lowerBetween]
  exact length_lowerBetween _ _ _ _ cs

/-- **The texts that are found in small letters wherever they are written** are those in
which the form of every capital sigma is settled. -/
theorem lower_isInfix_iff : (∀ t, cs <:+: t → lower cs <:+: lower t) ↔ IsSettled cs := by
  constructor
  · intro h u v hcs
    obtain ⟨x, hx, hfirst⟩ := exists_isSmallLetter_ne (lower cs).head?
    obtain ⟨y, hy, hlast⟩ := exists_isSmallLetter_ne (lower cs).getLast?
    have hbehind := keepsForms_of_lower_isInfix_cons
      (h (x :: cs) (List.suffix_cons x cs).isInfix) hx hfirst u v hcs
    have hbefore := keepsForms_of_lower_isInfix_concat
      (h (cs ++ [y]) (List.prefix_append cs [y]).isInfix) hy hlast u v hcs
    rw [List.append_nil] at hbehind hbefore
    by_contra hsettles
    exact (isFinal_ne_of_not_settlesForm hsettles hx.cased hy.cased).elim (· hbehind) (· hbefore)
  · rintro h t ⟨a, b, rfl⟩
    exact lower_isInfix (h.keepsForms a.reverse b)

/-- A blank ends a word. Without it, letters may follow the last sigma. -/
example : IsSettled "ΣΟΦΟΣ ".toList ∧ ¬ IsSettled "ΣΟΦΟΣ".toList := by decide +kernel

end Readership.Text

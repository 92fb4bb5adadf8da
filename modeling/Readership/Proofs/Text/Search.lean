import Mathlib.Data.List.Infix
import Mathlib.Data.List.TakeWhile
import Readership.Text.Blank
import Readership.Text.Search

/-!
# Pieces of a text

Looking for a text in another finds it exactly where the other can be cut in
three with the text in the middle (`occursIn_iff`), and cutting at a mark is cutting
in front of its first occurrence (`before?_eq_some_iff`). Cutting a text at a separator
undoes gluing: where two texts meet, the last piece of the one and the first of the
other become one piece, and no other piece changes (`splitAt_append`). With separators
between them the pieces are the text again (`intercalate_splitAt`). Taking the white
space off the ends of a text keeps what stands between two characters that are not
white (`exists_trim_eq`).
-/

namespace Readership.Text

/-! ## Occurrences -/

/-- **An occurrence is a middle part.** -/
theorem occursIn_iff {needle cs : List Char} : occursIn needle cs = true ↔ needle <:+: cs := by
  induction cs with
  | nil => simp [occursIn]
  | cons c rest ih =>
    rw [occursIn, Bool.or_eq_true, List.isPrefixOf_iff_prefix, ih, List.infix_cons_iff]

variable {mark front cs : List Char}

/-- There is nothing in front of a mark that does not occur. -/
theorem before?_eq_none_iff : before? mark cs = none ↔ ¬ mark <:+: cs := by
  induction cs with
  | nil => cases mark <;> simp [before?]
  | cons c rest ih =>
    rw [before?, List.infix_cons_iff, ← List.isPrefixOf_iff_prefix]
    split
    next h => simp [h]
    next h => simp [h, ih]

/-- **The first occurrence of a mark** ends what is in front of it: the mark follows, and
occurs neither in front of that nor across it. -/
theorem before?_eq_some_iff (hmark : mark ≠ []) :
    before? mark cs = some front ↔ front ++ mark <+: cs ∧ ¬ mark <:+: front ++ mark.dropLast := by
  have hshort : mark.dropLast.length < mark.length := by
    have := List.length_pos_of_ne_nil hmark
    rw [List.length_dropLast]
    omega
  induction cs generalizing front with
  | nil => simp [before?, hmark]
  | cons c rest ih =>
    rw [before?]
    split
    next h =>
      -- the mark is where the text begins, so with anything in front it were no first one
      rw [List.isPrefixOf_iff_prefix] at h
      rw [Option.some.injEq]
      constructor
      · rintro rfl
        exact ⟨h, fun hinfix => Nat.not_le.mpr hshort hinfix.length_le⟩
      · rintro ⟨hfront, hfirst⟩
        by_contra hne
        have hpos := List.length_pos_of_ne_nil (Ne.symm hne)
        have hdrop : front ++ mark.dropLast <+: c :: rest :=
          ((List.prefix_append_right_inj front).mpr mark.dropLast_prefix).trans hfront
        refine hfirst (List.prefix_of_prefix_length_le h hdrop ?_).isInfix
        rw [List.length_append, List.length_dropLast]
        omega
    next h =>
      rw [List.isPrefixOf_iff_prefix] at h
      cases front with
      | nil => simp [h]
      | cons d front =>
        rw [Option.map_eq_some_iff, List.cons_append, List.cons_append, List.cons_prefix_cons,
          List.infix_cons_iff, not_or]
        constructor
        · rintro ⟨front', hfront', heq⟩
          obtain ⟨rfl, rfl⟩ := List.cons.inj heq
          obtain ⟨hfront, hfirst⟩ := ih.mp hfront'
          refine ⟨⟨rfl, hfront⟩, fun hstarts => h (hstarts.trans ?_), hfirst⟩
          rw [List.cons_prefix_cons]
          exact ⟨rfl, ((List.prefix_append_right_inj front').mpr mark.dropLast_prefix).trans hfront⟩
        · rintro ⟨⟨rfl, hfront⟩, -, hfirst⟩
          exact ⟨front, ih.mpr ⟨hfront, hfirst⟩, rfl⟩

/-- The first occurrence in a text is the first in a longer one. -/
theorem before?_append (hmark : mark ≠ []) (h : before? mark cs = some front) (rest : List Char) :
    before? mark (cs ++ rest) = some front := by
  obtain ⟨hfront, hfirst⟩ := (before?_eq_some_iff hmark).mp h
  exact (before?_eq_some_iff hmark).mpr ⟨hfront.trans (List.prefix_append cs rest), hfirst⟩

/-- What stands behind a mark at the front. -/
theorem after?_eq_some_iff {rest : List Char} : after? mark cs = some rest ↔ cs = mark ++ rest := by
  rw [after?]
  constructor
  · intro h
    split at h
    next hmark =>
      cases h
      exact List.prefix_iff_eq_append.mp (List.isPrefixOf_iff_prefix.mp hmark) |>.symm
    next => cases h
  · rintro rfl
    simp

/-! ## Pieces -/

variable {separator c : Char}

theorem splitAt_cons_self (separator : Char) (cs : List Char) :
    splitAt separator (separator :: cs) = [] :: splitAt separator cs := by
  rw [splitAt, if_pos rfl]

/-- Any other character belongs to the first piece. -/
theorem splitAt_cons_of_ne (h : c ≠ separator) {cs piece : List Char} {pieces : List (List Char)}
    (hcs : splitAt separator cs = piece :: pieces) :
    splitAt separator (c :: cs) = (c :: piece) :: pieces := by
  rw [splitAt, if_neg h, hcs]

/-- A text without the separator is one piece. -/
theorem splitAt_eq_singleton {cs : List Char} (h : separator ∉ cs) :
    splitAt separator cs = [cs] := by
  induction cs with
  | nil => rfl
  | cons c cs ih =>
    rw [List.mem_cons, not_or] at h
    exact splitAt_cons_of_ne (Ne.symm h.1) (ih h.2)

/-- **Where two texts meet, two pieces become one.** -/
theorem splitAt_append (separator : Char) (a b : List Char) :
    ∃ front last first back, splitAt separator a = front ++ [last]
      ∧ splitAt separator b = first :: back
      ∧ splitAt separator (a ++ b) = front ++ (last ++ first) :: back := by
  induction a with
  | nil =>
    obtain ⟨first, back, hb⟩ := List.exists_cons_of_ne_nil (splitAt_ne_nil separator b)
    exact ⟨[], [], first, back, rfl, hb, hb⟩
  | cons c a ih =>
    obtain ⟨front, last, first, back, ha, hb, hab⟩ := ih
    by_cases hc : c = separator
    · subst hc
      refine ⟨[] :: front, last, first, back, ?_, hb, ?_⟩
      · rw [splitAt_cons_self, ha, List.cons_append]
      · rw [List.cons_append, splitAt_cons_self, hab, List.cons_append]
    · cases front with
      | nil =>
        exact ⟨[], c :: last, first, back, splitAt_cons_of_ne hc ha, hb,
          splitAt_cons_of_ne hc hab⟩
      | cons piece front =>
        exact ⟨(c :: piece) :: front, last, first, back, splitAt_cons_of_ne hc ha, hb,
          splitAt_cons_of_ne hc hab⟩

/-- **A separator keeps two texts apart.** -/
theorem splitAt_append_cons (separator : Char) (a b : List Char) :
    splitAt separator (a ++ separator :: b) = splitAt separator a ++ splitAt separator b := by
  obtain ⟨front, last, first, back, ha, hb, hab⟩ := splitAt_append separator a (separator :: b)
  rw [splitAt_cons_self] at hb
  cases hb
  rw [hab, ha, List.append_nil, List.append_assoc, List.singleton_append]

/-- The first piece of a text is empty or has its first character in it. -/
theorem splitAt_cons_front {cs piece : List Char} {pieces : List (List Char)}
    (h : splitAt separator (c :: cs) = piece :: pieces) : piece = [] ∨ c ∈ piece := by
  by_cases hc : c = separator
  · rw [hc, splitAt_cons_self] at h
    exact .inl (List.cons.inj h).1.symm
  · obtain ⟨first, back, hcs⟩ := List.exists_cons_of_ne_nil (splitAt_ne_nil separator cs)
    rw [splitAt_cons_of_ne hc hcs] at h
    exact .inr ((List.cons.inj h).1 ▸ List.mem_cons_self)

/-- The last piece of a text is empty or has its last character in it. -/
theorem splitAt_concat_back {cs piece : List Char} {pieces : List (List Char)}
    (h : splitAt separator (cs ++ [c]) = pieces ++ [piece]) : piece = [] ∨ c ∈ piece := by
  by_cases hc : c = separator
  · rw [hc, splitAt_append_cons] at h
    exact .inl (List.append_inj' h rfl |>.2 |> List.cons.inj).1.symm
  · obtain ⟨front, last, first, back, -, hsingle, hboth⟩ := splitAt_append separator cs [c]
    rw [splitAt_eq_singleton (by simpa using Ne.symm hc)] at hsingle
    obtain ⟨rfl, rfl⟩ := List.cons.inj hsingle
    rw [hboth] at h
    obtain ⟨-, hlast⟩ := List.append_inj' h rfl
    exact .inr ((List.cons.inj hlast).1 ▸ List.mem_append_right last List.mem_cons_self)

/-- **The pieces put together again** make the text. -/
theorem intercalate_splitAt (separator : Char) (cs : List Char) :
    [separator].intercalate (splitAt separator cs) = cs := by
  induction cs with
  | nil => rfl
  | cons c cs ih =>
    obtain ⟨first, back, hcs⟩ := List.exists_cons_of_ne_nil (splitAt_ne_nil separator cs)
    rw [hcs] at ih
    by_cases hc : c = separator
    · rw [hc, splitAt_cons_self, hcs, List.intercalate_cons_cons, ih]
      rfl
    · rw [splitAt_cons_of_ne hc hcs]
      cases back with
      | nil => rw [← ih, List.intercalate_singleton, List.intercalate_singleton]
      | cons next back =>
        rw [List.intercalate_cons_cons] at ih ⊢
        rw [← ih, List.cons_append, List.cons_append]

/-- A character of a text is a separator or in a piece. -/
theorem exists_mem_splitAt {cs : List Char} (h : c ∈ cs) (hc : c ≠ separator) :
    ∃ piece ∈ splitAt separator cs, c ∈ piece := by
  obtain ⟨u, v, rfl⟩ := List.append_of_mem h
  obtain ⟨front, last, first, back, -, hfirst, hboth⟩ := splitAt_append separator u (c :: v)
  refine ⟨last ++ first, hboth ▸ by simp, List.mem_append_right last ?_⟩
  obtain ⟨next, back', hv⟩ := List.exists_cons_of_ne_nil (splitAt_ne_nil separator v)
  rw [splitAt_cons_of_ne hc hv] at hfirst
  exact (List.cons.inj hfirst).1 ▸ List.mem_cons_self

/-- The characters of a piece are in the text. -/
theorem mem_of_mem_splitAt {cs piece : List Char} (h : piece ∈ splitAt separator cs)
    (hc : c ∈ piece) : c ∈ cs := by
  induction cs generalizing piece with
  | nil =>
    rw [splitAt, List.mem_singleton] at h
    exact absurd (h ▸ hc) List.not_mem_nil
  | cons d cs ih =>
    obtain ⟨first, back, hcs⟩ := List.exists_cons_of_ne_nil (splitAt_ne_nil separator cs)
    by_cases hd : d = separator
    · rw [hd, splitAt_cons_self, List.mem_cons] at h
      rcases h with rfl | h
      · cases hc
      · exact List.mem_cons_of_mem d (ih h hc)
    · rw [splitAt_cons_of_ne hd hcs, List.mem_cons] at h
      rw [hcs] at ih
      rcases h with rfl | h
      · rcases List.mem_cons.mp hc with rfl | hc
        · exact List.mem_cons_self
        · exact List.mem_cons_of_mem d (ih List.mem_cons_self hc)
      · exact List.mem_cons_of_mem d (ih (List.mem_cons_of_mem first h) hc)

/-- No piece has a separator in it. -/
theorem not_mem_of_mem_splitAt {cs piece : List Char} (h : piece ∈ splitAt separator cs) :
    separator ∉ piece := by
  induction cs generalizing piece with
  | nil =>
    rw [splitAt, List.mem_singleton] at h
    exact h ▸ List.not_mem_nil
  | cons d cs ih =>
    obtain ⟨first, back, hcs⟩ := List.exists_cons_of_ne_nil (splitAt_ne_nil separator cs)
    rw [hcs] at ih
    by_cases hd : d = separator
    · rw [hd, splitAt_cons_self, hcs, List.mem_cons] at h
      rcases h with rfl | h
      · exact List.not_mem_nil
      · exact ih h
    · rw [splitAt_cons_of_ne hd hcs, List.mem_cons] at h
      rcases h with rfl | h
      · rw [List.mem_cons, not_or]
        exact ⟨Ne.symm hd, ih List.mem_cons_self⟩
      · exact ih (List.mem_cons_of_mem first h)

/-- **The pieces of a text** are the only texts without a separator that make it when they
are put together. -/
theorem splitAt_eq_iff {cs : List Char} {pieces : List (List Char)} :
    splitAt separator cs = pieces ↔ pieces ≠ [] ∧ (∀ piece ∈ pieces, separator ∉ piece) ∧
      [separator].intercalate pieces = cs := by
  constructor
  · rintro rfl
    exact ⟨splitAt_ne_nil separator cs, fun _ => not_mem_of_mem_splitAt,
      intercalate_splitAt separator cs⟩
  · rintro ⟨hne, hpieces, rfl⟩
    induction pieces with
    | nil => exact absurd rfl hne
    | cons piece pieces ih =>
      obtain ⟨hpiece, hrest⟩ := List.forall_mem_cons.mp hpieces
      cases pieces with
      | nil => rw [List.intercalate_singleton, splitAt_eq_singleton hpiece]
      | cons next pieces =>
        rw [List.intercalate_cons_cons, List.append_assoc, List.singleton_append,
          splitAt_append_cons, splitAt_eq_singleton hpiece, ih (List.cons_ne_nil _ _) hrest]
        rfl

/-! ## White space at the ends -/

/-- What ends in a character without `p` is kept. -/
theorem dropTrailing_append_cons {p : Char → Bool} (hc : p c = false) (a rest : List Char) :
    dropTrailing p (a ++ c :: rest) = a ++ c :: dropTrailing p rest := by
  have hreverse : (a ++ c :: rest).reverse = rest.reverse ++ c :: a.reverse := by simp
  simp only [dropTrailing, hreverse, List.dropWhile_append, List.dropWhile_cons, hc]
  split
  next h => simp [List.isEmpty_iff.mp h]
  next => simp

/-- Trimming takes away from both ends. -/
theorem exists_eq_append_dropTrailing (p : Char → Bool) (cs : List Char) :
    ∃ tail, cs = dropTrailing p cs ++ tail ∧ ∀ c ∈ tail, p c = true := by
  refine ⟨(cs.reverse.takeWhile p).reverse, ?_, fun c hc => ?_⟩
  · rw [dropTrailing, ← List.reverse_append, List.takeWhile_append_dropWhile, List.reverse_reverse]
  · exact List.all_eq_true.mp List.all_takeWhile c (List.mem_reverse.mp hc)

/-- **A trimmed text is a middle part.** -/
theorem trim_isInfix (cs : List Char) : trim cs <:+: cs := by
  obtain ⟨tail, htail, -⟩ := exists_eq_append_dropTrailing isBlank (trimStart cs)
  have hprefix : trim cs <+: trimStart cs := ⟨tail, htail.symm⟩
  exact hprefix.isInfix.trans (List.dropWhile_suffix isBlank).isInfix

/-- **What begins and ends without white space is kept** by trimming, with
whatever is left of the text behind it. -/
theorem exists_trim_eq {first last : Char} (hfirst : isBlank first = false)
    (hlast : isBlank last = false) (a rest : List Char) :
    ∃ rest', trim (first :: a ++ last :: rest) = first :: a ++ last :: rest' := by
  refine ⟨dropTrailing isBlank rest, ?_⟩
  have hstart : trimStart (first :: a ++ last :: rest) = first :: a ++ last :: rest := by
    rw [trimStart, List.cons_append, List.dropWhile_cons_of_neg (by simp [hfirst])]
  rw [trim, hstart, trimEnd, dropTrailing_append_cons hlast]

/-- What is cut off at the end stops at a character without `p`. -/
theorem eq_false_of_mem_getLast?_dropTrailing {p : Char → Bool} {cs : List Char} :
    ∀ c ∈ (dropTrailing p cs).getLast?, p c = false := by
  intro c hc
  rw [dropTrailing, List.getLast?_reverse, Option.mem_def] at hc
  simpa only [hc] using List.head?_dropWhile_not p cs.reverse

/-- Where the last character is without `p` nothing is cut off. -/
theorem dropTrailing_eq_self {p : Char → Bool} {cs : List Char}
    (h : ∀ c ∈ cs.getLast?, p c = false) : dropTrailing p cs = cs := by
  obtain rfl | ⟨cs, c, rfl⟩ := List.eq_nil_or_concat cs
  · rfl
  · rw [List.concat_eq_append] at h ⊢
    exact dropTrailing_concat_of_not cs (h c List.getLast?_concat)

/-- **A trimmed text**: what begins and ends without white space, if there is anything. -/
def IsTrimmed (cs : List Char) : Prop :=
  (∀ c ∈ cs.head?, isBlank c = false) ∧ ∀ c ∈ cs.getLast?, isBlank c = false

instance (cs : List Char) : Decidable (IsTrimmed cs) :=
  decidable_of_iff (cs.head?.all (!isBlank ·) ∧ cs.getLast?.all (!isBlank ·))
    (by simp [IsTrimmed, Option.all_eq_true])

/-- **Trimming takes white space off the ends** and leaves a trimmed text. -/
theorem exists_eq_append_trim (cs : List Char) :
    ∃ lead tail, cs = lead ++ trim cs ++ tail ∧ (∀ c ∈ lead, isBlank c = true) ∧
      (∀ c ∈ tail, isBlank c = true) ∧ IsTrimmed (trim cs) := by
  obtain ⟨tail, htail, hblank⟩ := exists_eq_append_dropTrailing isBlank (trimStart cs)
  refine ⟨cs.takeWhile isBlank, tail, ?_, ?_, hblank, ?_, eq_false_of_mem_getLast?_dropTrailing⟩
  · rw [List.append_assoc, trim, trimEnd, ← htail, trimStart, List.takeWhile_append_dropWhile]
  · exact List.all_eq_true.mp List.all_takeWhile
  · intro c hc
    -- what is left begins as it did before the end was cut off
    have hkept : (dropTrailing isBlank (trimStart cs)).head? = some c := hc
    have hstart : (trimStart cs).head? = some c := by
      rw [htail, List.head?_append, hkept]
      rfl
    rw [trimStart] at hstart
    simpa only [hstart] using List.head?_dropWhile_not isBlank cs

/-- **What stands behind a trimmed text** may be cut off at its end; the text itself is
kept. -/
theorem exists_trim_append {cs : List Char} (h : IsTrimmed cs) (hne : cs ≠ [])
    (rest : List Char) : ∃ rest', rest' <+: rest ∧ trim (cs ++ rest) = cs ++ rest' := by
  obtain ⟨first, cs', hfirst⟩ := List.exists_cons_of_ne_nil hne
  have hstart : trimStart (cs ++ rest) = cs ++ rest := by
    rw [trimStart, hfirst, List.cons_append,
      List.dropWhile_cons_of_neg (by simp [h.1 first (by rw [hfirst]; rfl)])]
  obtain rfl | ⟨front, last, rfl⟩ := List.eq_nil_or_concat cs
  · exact absurd rfl hne
  · obtain ⟨tail, htail, -⟩ := exists_eq_append_dropTrailing isBlank rest
    refine ⟨dropTrailing isBlank rest, ⟨tail, htail.symm⟩, ?_⟩
    rw [List.concat_eq_append] at h hstart ⊢
    rw [trim, hstart, trimEnd, List.append_assoc, List.singleton_append,
      dropTrailing_append_cons (h.2 last List.getLast?_concat), List.append_assoc,
      List.singleton_append]

/-- **White space around a trimmed text** is all that trimming takes off. -/
theorem trim_append_append {lead cs tail : List Char} (hlead : ∀ c ∈ lead, isBlank c = true)
    (htail : ∀ c ∈ tail, isBlank c = true) (h : IsTrimmed cs) : trim (lead ++ cs ++ tail) = cs := by
  cases cs with
  | nil =>
    have hall : ∀ c ∈ lead ++ tail, isBlank c = true := fun c hc =>
      (List.mem_append.mp hc).elim (hlead c) (htail c)
    rw [List.append_nil, trim, trimStart, List.dropWhile_eq_nil_iff.mpr hall]
    rfl
  | cons c cs =>
    have hfront : trimStart (lead ++ (c :: cs) ++ tail) = (c :: cs) ++ tail := by
      rw [trimStart, List.append_assoc, List.dropWhile_append_of_pos hlead, List.cons_append,
        List.dropWhile_cons_of_neg (by simp [h.1 c rfl])]
    rw [trim, hfront, trimEnd, dropTrailing_append_of_all _ htail, dropTrailing_eq_self h.2]

/-- Trimming changes no trimmed text. -/
theorem trim_of_isTrimmed {cs : List Char} (h : IsTrimmed cs) : trim cs = cs := by
  simpa using trim_append_append (List.forall_mem_nil _) (List.forall_mem_nil _) h

end Readership.Text

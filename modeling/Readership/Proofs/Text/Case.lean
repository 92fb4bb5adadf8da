import Mathlib.Data.List.Basic
import Readership.Text.Case

/-!
# Blanks in capital letters

A character may have several capitals, so a text in capital letters is longer
than the text, and a place in it need not be a place of the text. A blank is.
No letter has a capital with a blank in it, and so a text in capital letters is
cut at its blanks where the text itself is (`exists_of_upper_eq_append_blank`).
-/

namespace Readership.Text

/-- Only one number is that of the blank. -/
theorem eq_of_ofNat_eq_blank {n : Nat} (h : Char.ofNat n = ' ') : n = 32 := by
  by_cases hvalid : n.isValidChar
  · have hchar : Char.ofNatAux n hvalid = ' ' := (dif_pos hvalid).symm.trans h
    exact congrArg Char.toNat hchar
  · have hchar : Char.ofNatAux 0 (by decide) = ' ' := (dif_neg hvalid).symm.trans h
    exact absurd hchar (by decide)

/-- A run of a case mapping that leads above the blank does not lead to it. -/
theorem mapCase_ne_blank {runs : List CaseRun} (hruns : ∀ r ∈ runs, 32 < r.first + r.shift)
    {c : Char} (hc : c ≠ ' ') : mapCase runs c ≠ ' ' := by
  rw [mapCase]
  split
  next r hr =>
    have hcovers := List.find?_some hr
    have hshift := hruns r (List.mem_of_find?_eq_some hr)
    rw [CaseRun.covers, Bool.and_eq_true, Bool.and_eq_true, decide_eq_true_eq,
      decide_eq_true_eq] at hcovers
    intro hblank
    have hnumber := eq_of_ofNat_eq_blank hblank
    omega
  next => exact hc

/-- **No capital is a blank** but that of the blank. -/
theorem eq_blank_of_mem_upperChar {c : Char} (h : ' ' ∈ upperChar c) : c = ' ' := by
  have hascii : ∀ n < 128, (Char.ofNat n).toUpper = ' ' → Char.ofNat n = ' ' := by decide
  have hlong : ∀ p ∈ longCapitals, ' ' ∉ p.2.map Char.ofNat := by decide
  have hruns : ∀ r ∈ upperRuns, 32 < r.first + r.shift := by decide +kernel
  rw [upperChar] at h
  -- an ASCII character, one with several capitals, or one of a run
  split at h
  next hlt =>
    rw [List.mem_singleton, ← Char.ofNat_toNat c] at h
    rw [← Char.ofNat_toNat c]
    exact hascii c.toNat hlt h.symm
  next hge =>
    split at h
    next capitals hcapitals =>
      obtain ⟨_, _, hmem, -⟩ := List.lookup_eq_some_iff.mp hcapitals
      exact absurd h (hlong (c.toNat, capitals) (by simp [hmem]))
    next =>
      by_contra hc
      exact mapCase_ne_blank hruns hc (List.mem_singleton.mp h).symm

/-- **A blank among capitals is a blank of the text**, with the capitals of what
stands before it and behind it on either side. -/
theorem exists_of_upper_eq_append_blank {cs u v : List Char} (h : upper cs = u ++ ' ' :: v) :
    ∃ a b, cs = a ++ ' ' :: b ∧ upper a = u ∧ upper b = v := by
  induction cs generalizing u with
  | nil => simp at h
  | cons c cs ih =>
    by_cases hc : c = ' '
    · subst hc
      have hcons : ' ' :: upper cs = u ++ ' ' :: v := h
      cases u with
      | nil => exact ⟨[], cs, rfl, rfl, (List.cons.inj hcons).2⟩
      | cons d u =>
        obtain ⟨rfl, hrest⟩ := List.cons.inj hcons
        obtain ⟨a, b, rfl, rfl, hb⟩ := ih hrest
        exact ⟨' ' :: a, b, rfl, rfl, hb⟩
    · rw [upper_cons] at h
      -- the capitals of the first character end before the blank
      obtain ⟨u', rfl, hrest⟩ | ⟨v', hchar, hrest⟩ := List.append_eq_append_iff.mp h
      · obtain ⟨a, b, rfl, rfl, hb⟩ := ih hrest
        exact ⟨c :: a, b, rfl, rfl, hb⟩
      · cases v' with
        | nil =>
          obtain ⟨a, b, rfl, ha, hb⟩ := ih (u := []) hrest.symm
          refine ⟨c :: a, b, rfl, ?_, hb⟩
          rw [upper_cons, ha, hchar, List.append_nil, List.append_nil]
        | cons d v' =>
          obtain ⟨rfl, -⟩ := List.cons.inj hrest
          exact absurd (eq_blank_of_mem_upperChar (hchar ▸ by simp)) hc

/-- A text whose capitals have no blank has none. -/
theorem blank_not_mem_of_upper {w keyword : List Char} (h : upper w = keyword)
    (hkeyword : ' ' ∉ keyword) : ' ' ∉ w := by
  rintro hw
  obtain ⟨a, b, rfl⟩ := List.append_of_mem hw
  refine hkeyword (h ▸ ?_)
  simp only [upper_append, upper_cons]
  exact List.mem_append_right _ (List.mem_append_left _ (by decide))

end Readership.Text

import Readership.Text.Blank
import Readership.Text.Reader

/-!
# What readers take off a text

A run of digits is taken whole: what follows it decides where it ends. So a
reader can be followed through a printed text piece by piece, as soon as each
piece is known not to run on into the next (`StartsWithout`).
-/

namespace Readership.Text

/-- The text is empty or its first character fails `p`. -/
def StartsWithout (p : Char → Bool) : List Char → Prop
  | [] => True
  | c :: _ => p c = false

@[simp] theorem startsWithout_nil (p : Char → Bool) : StartsWithout p [] := trivial

@[simp] theorem startsWithout_cons (p : Char → Bool) (c : Char) (cs : List Char) :
    StartsWithout p (c :: cs) ↔ p c = false := Iff.rfl

/-- A run of characters with `p` ends where the text goes on without it. -/
theorem takeWhile_append_of_startsWithout {p : Char → Bool} {run rest : List Char}
    (hrun : ∀ c ∈ run, p c = true) (hrest : StartsWithout p rest) :
    (run ++ rest).takeWhile p = run := by
  rw [List.takeWhile_append_of_pos hrun]
  cases rest with
  | nil => simp
  | cons c cs => simp [(startsWithout_cons p c cs).mp hrest]

/-- What is left behind such a run. -/
theorem dropWhile_append_of_startsWithout {p : Char → Bool} {run rest : List Char}
    (hrun : ∀ c ∈ run, p c = true) (hrest : StartsWithout p rest) :
    (run ++ rest).dropWhile p = rest := by
  rw [List.dropWhile_append_of_pos hrun]
  cases rest with
  | nil => rfl
  | cons c cs => simp [(startsWithout_cons p c cs).mp hrest]

/-- A text that does not start with white space has none to lose there. -/
theorem trimStart_of_startsWithout {cs : List Char} (h : StartsWithout isBlank cs) :
    trimStart cs = cs := by
  cases cs with
  | nil => rfl
  | cons c cs => simp [trimStart, (startsWithout_cons isBlank c cs).mp h]

/-- **A text that begins and ends in ink is kept whole** by trimming. -/
theorem trim_append_of_ink {front ink : List Char} (hstart : StartsWithout isBlank (front ++ ink))
    (hne : ink ≠ []) (hink : ∀ c ∈ ink, isBlank c = false) :
    trim (front ++ ink) = front ++ ink := by
  obtain ⟨body, last, rfl⟩ := List.eq_nil_or_concat ink |>.resolve_left hne
  have hlast : isBlank last = false := hink last (by simp)
  rw [List.concat_eq_append, ← List.append_assoc] at hstart ⊢
  rw [trim, trimStart_of_startsWithout hstart, trimEnd, dropTrailing_concat_of_not _ hlast]

/-! ## Chains of readings -/

/-- **Every result has a property**, if there is a result at all. -/
def Yields {α : Type} (x : Option α) (P : α → Prop) : Prop :=
  ∀ a, x = some a → P a

/-- A chain yields what its last step does, from whatever the first one gives. -/
theorem yields_bind {α β : Type} {x : Option α} {f : α → Option β} {P : β → Prop}
    (h : ∀ a, x = some a → Yields (f a) P) : Yields (x >>= f) P := by
  intro b hb
  obtain ⟨a, ha, hb⟩ := Option.bind_eq_some_iff.mp hb
  exact h a ha b hb

theorem yields_some {α : Type} {a : α} {P : α → Prop} (h : P a) : Yields (some a) P := by
  intro b hb
  exact Option.some.inj hb ▸ h

theorem yields_none {α : Type} {P : α → Prop} : Yields (none : Option α) P :=
  fun _ h => nomatch h

/-- A check in between can only take results away. -/
theorem yields_ite {α : Type} {c : Prop} [Decidable c] {x : Option α} {P : α → Prop}
    (h : c → Yields x P) : Yields (if c then x else none) P := by
  by_cases hc : c
  · rw [if_pos hc]
    exact h hc
  · rw [if_neg hc]
    exact yields_none

/-- Readings of the items of a list yield what each of them does. -/
theorem yields_mapM {α β : Type} {f : α → Option β} {P : β → Prop} (h : ∀ a, Yields (f a) P)
    (xs : List α) : Yields (xs.mapM f) fun ys => ∀ y ∈ ys, P y := by
  induction xs with
  | nil => exact yields_some nofun
  | cons x xs ih =>
    rw [List.mapM_cons]
    refine yields_bind fun y hy => yields_bind fun ys hys => yields_some ?_
    exact List.forall_mem_cons.mpr ⟨h x y hy, ih ys hys⟩

@[simp] theorem literal_cons_self (c : Char) (rest : List Char) :
    literal c (c :: rest) = some ((), rest) := by simp [literal]

/-- **A run of digits read off.** Either it has all the digits that may be
taken or the text goes on with something else. -/
theorem digitRun_append {least most : Nat} {run rest : List Char}
    (hdigits : ∀ c ∈ run, c.isDigit = true) (hleast : least ≤ run.length)
    (hmost : run.length ≤ most)
    (hend : run.length = most ∨ StartsWithout Char.isDigit rest) :
    digitRun least most (run ++ rest) = some (run, rest) := by
  have htaken : ((run ++ rest).take most).takeWhile Char.isDigit = run := by
    rcases hend with hfull | hstop
    · rw [List.take_append_of_le_length (by omega), List.take_of_length_le (by omega)]
      have hall := takeWhile_append_of_startsWithout hdigits (startsWithout_nil _)
      rwa [List.append_nil] at hall
    · rw [List.take_append, List.take_of_length_le hmost]
      refine takeWhile_append_of_startsWithout hdigits ?_
      cases hn : most - run.length with
      | zero => simp
      | succ n =>
        cases rest with
        | nil => simp
        | cons c cs => simpa using hstop
  simp only [digitRun, htaken, hleast, if_true, List.drop_left]

/-- What a run of digits is, when one is read. -/
theorem digitRun_eq_some {least most : Nat} {cs run rest : List Char}
    (h : digitRun least most cs = some (run, rest)) :
    (∀ c ∈ run, c.isDigit = true) ∧ least ≤ run.length ∧ run.length ≤ most := by
  simp only [digitRun] at h
  split at h
  · rename_i hleast
    cases h
    refine ⟨fun c hc => ?_, hleast, ?_⟩
    · have hall := List.all_takeWhile (l := cs.take most) (p := Char.isDigit)
      exact List.all_eq_true.mp hall c hc
    · exact Nat.le_trans (List.takeWhile_prefix Char.isDigit).length_le (List.length_take_le _ _)
  · cases h

/-- A run that has enough digits has enough for less. -/
theorem digitRun_of_le {few least most : Nat} {cs run rest : List Char} (hle : few ≤ least)
    (h : digitRun least most cs = some (run, rest)) : digitRun few most cs = some (run, rest) := by
  simp only [digitRun] at h ⊢
  split at h
  next hleast => rwa [if_pos (Nat.le_trans hle hleast)]
  next => cases h

/-- What is read and what is left make the text. -/
theorem eq_append_of_digitRun {least most : Nat} {cs run rest : List Char}
    (h : digitRun least most cs = some (run, rest)) : cs = run ++ rest := by
  simp only [digitRun] at h
  split at h
  next =>
    cases h
    have hfront : ((cs.take most).takeWhile Char.isDigit) <+: cs :=
      (List.takeWhile_prefix _).trans (List.take_prefix _ _)
    exact (List.prefix_iff_eq_append.mp hfront).symm
  next => cases h

/-- **A run of digits has a first one**, and the text begins with it. -/
theorem exists_digit_of_digitRun {least most : Nat} {cs run rest : List Char}
    (hpos : 0 < least) (h : digitRun least most cs = some (run, rest)) :
    ∃ c more, cs = c :: more ∧ c.isDigit = true := by
  obtain ⟨hdigits, hleast, -⟩ := digitRun_eq_some h
  obtain ⟨c, front, rfl⟩ := List.exists_cons_of_length_pos (Nat.lt_of_lt_of_le hpos hleast)
  exact ⟨c, front ++ rest, eq_append_of_digitRun h, hdigits c List.mem_cons_self⟩

/-- **Repeated reading, one step.** -/
theorem readAll?_of_read {α : Type} {read : Reader α} {cs rest : List Char} {a : α}
    (hread : read cs = some (a, rest)) (hlt : rest.length < cs.length) :
    readAll? read cs = (readAll? read rest).map (a :: ·) := by
  have hne : cs.isEmpty = false := by
    cases cs with
    | nil => simp at hlt
    | cons c cs => rfl
  rw [readAll?, hne]
  simp only [Bool.false_eq_true, if_false, hread, hlt, if_true]

@[simp] theorem readAll?_nil {α : Type} (read : Reader α) : readAll? read [] = some [] := by
  rw [readAll?]
  rfl

end Readership.Text

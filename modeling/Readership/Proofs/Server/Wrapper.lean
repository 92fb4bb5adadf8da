import Mathlib.Logic.Relation
import Mathlib.Order.WellFounded
import Readership.Proofs.Text.Search
import Readership.Server.Column

/-!
# Wrappers around a type

A server writes a type within wrappers, each a word and a pair of brackets, and a type
proper may have brackets of its own. One pass takes the outermost wrapper off
(`Column.Unwraps`), and passes go on until there is none.

Each pass takes off a word, so there are only so many passes; and it takes off what one
wrapper has put on, since the word at the front says which it was and the bracket that
belongs to it is the last character, whatever brackets stand before it
(`Wrapper.unwraps_iff`). So passes undo a stack of wrappers one by one, and end where the
type proper begins (`Column.ofType_unwraps`).
-/

namespace Readership

/-- **A wrapper** around a type. -/
inductive Wrapper where
  | nullable
  | lowCardinality
deriving DecidableEq

namespace Wrapper

/-- The word of a wrapper. -/
def word : Wrapper → String
  | nullable => "Nullable"
  | lowCardinality => "LowCardinality"

/-- Whether a value in a wrapper may be null. -/
def allowsNull : Wrapper → Bool
  | nullable => true
  | lowCardinality => false

/-- **A type in a wrapper.** -/
def around (w : Wrapper) (type : List Char) : List Char :=
  w.word.toList ++ '(' :: (type ++ [')'])

/-- **A type in a stack of wrappers**, the first of which is the outermost. -/
def stack (ws : List Wrapper) (type : List Char) : List Char :=
  ws.foldr around type

/-- **A type proper** is in no wrapper. -/
def IsProper (type : List Char) : Prop :=
  ∀ w inside, type ≠ around w inside

@[simp] theorem stack_nil (type : List Char) : stack [] type = type := rfl

@[simp] theorem stack_cons (w : Wrapper) (ws : List Wrapper) (type : List Char) :
    stack (w :: ws) type = around w (stack ws type) := rfl

variable {w w' : Wrapper} {ws : List Wrapper} {type inside inside' : List Char}

theorem length_around (w : Wrapper) (type : List Char) :
    (around w type).length = w.word.length + type.length + 2 := by
  rw [around, List.length_append, List.length_cons, List.length_append, String.length_toList]
  rfl

/-- **The word at the front** says which wrapper it is, and what is in it. -/
theorem around_inj : around w inside = around w' inside' ↔ w = w' ∧ inside = inside' := by
  constructor
  · intro h
    have hword : w = w' := by
      -- the words differ in their first letters
      cases w <;> cases w' <;> first | rfl | exact absurd (List.cons.inj h).1 (by decide)
    subst hword
    exact ⟨rfl, List.append_cancel_right (List.cons.inj (List.append_cancel_left h)).2⟩
  · rintro ⟨rfl, rfl⟩
    rfl

/-- One of several wrappers allows null where it is the one that does. -/
theorem any_allowsNull (ws : List Wrapper) : ws.any allowsNull = decide (nullable ∈ ws) := by
  induction ws with
  | nil => rfl
  | cons w ws ih => cases w <;> simp [allowsNull, ih]

end Wrapper

namespace Column

open Wrapper (around stack IsProper)

variable {w : Wrapper} {ws : List Wrapper} {type inside base : List Char} {nullable : Bool}
  {s s' : List Char × Bool}

/-! ## One pass -/

/-- **A wrapper comes off** where it is: its word and a bracket in front, a bracket behind. -/
theorem unwrap?_eq_some_iff {wrapper : String} :
    unwrap? wrapper type = some inside ↔ type = wrapper.toList ++ '(' :: (inside ++ [')']) := by
  rw [unwrap?]
  constructor
  · intro h
    split at h
    next rest hrest =>
      split at h
      next hlast =>
        cases h
        rw [Text.after?_eq_some_iff.mp hrest, List.append_assoc, List.singleton_append,
          List.dropLast_append_getLast? _ hlast]
      next => cases h
    next => cases h
  · rintro rfl
    have hrest : Text.after? (wrapper.toList ++ ['('])
        (wrapper.toList ++ '(' :: (inside ++ [')'])) = some (inside ++ [')']) :=
      Text.after?_eq_some_iff.mpr (List.append_cons _ _ _)
    simp [hrest]

/-- **One pass** takes off the outermost wrapper; the wrapper that allows null is looked for
first. -/
inductive Unwraps : List Char × Bool → List Char × Bool → Prop where
  | nullable {type inside : List Char} {nullable : Bool}
    (h : unwrap? "Nullable" type = some inside) : Unwraps (type, nullable) (inside, true)
  | lowCardinality {type inside : List Char} {nullable : Bool}
    (hnullable : unwrap? "Nullable" type = none)
    (h : unwrap? "LowCardinality" type = some inside) : Unwraps (type, nullable) (inside, nullable)

/-- **A pass takes off what one wrapper has put on.** -/
theorem unwraps_iff :
    Unwraps (type, nullable) s ↔
      ∃ w inside, type = around w inside ∧ s = (inside, nullable || w.allowsNull) := by
  constructor
  · rintro (⟨h⟩ | ⟨-, h⟩)
    · exact ⟨.nullable, _, unwrap?_eq_some_iff.mp h, by simp [Wrapper.allowsNull]⟩
    · exact ⟨.lowCardinality, _, unwrap?_eq_some_iff.mp h, by simp [Wrapper.allowsNull]⟩
  · rintro ⟨w, inside, rfl, rfl⟩
    cases w with
    | nullable =>
      rw [Wrapper.allowsNull, Bool.or_true]
      exact .nullable (unwrap?_eq_some_iff.mpr rfl)
    | lowCardinality =>
      have hother : unwrap? "Nullable" (around .lowCardinality inside) = none := by
        refine Option.eq_none_iff_forall_ne_some.mpr fun inside' h => ?_
        have heq : around .lowCardinality inside = around .nullable inside' :=
          unwrap?_eq_some_iff.mp h
        exact absurd (Wrapper.around_inj.mp heq).1 nofun
      rw [Wrapper.allowsNull, Bool.or_false]
      exact .lowCardinality hother (unwrap?_eq_some_iff.mpr rfl)

/-- **Each pass shortens the type.** -/
theorem Unwraps.length_lt (h : Unwraps s s') : s'.1.length < s.1.length := by
  obtain ⟨w, inside, htype, rfl⟩ := unwraps_iff.mp h
  have hlength := Wrapper.length_around w inside
  rw [htype]
  show inside.length < (around w inside).length
  omega

/-- A type proper is left as it is. -/
theorem isProper_iff (nullable : Bool) :
    IsProper type ↔ ∀ s, ¬ Unwraps (type, nullable) s := by
  simp only [unwraps_iff, IsProper, ne_eq]
  exact ⟨fun h s ⟨w, inside, htype, _⟩ => h w inside htype,
    fun h w inside htype => h _ ⟨w, inside, htype, rfl⟩⟩

/-! ## All passes -/

/-- **Passes go on** until nothing can be taken off. -/
theorem reflTransGen_unwrapAll (nullable : Bool) (type : List Char) :
    Relation.ReflTransGen Unwraps (type, nullable) (unwrapAll nullable type) ∧
      IsProper (unwrapAll nullable type).1 := by
  fun_induction unwrapAll nullable type with
  | case1 nullable type inside h ih =>
    exact ⟨.head (.nullable h) ih.1, ih.2⟩
  | case2 nullable type hnullable inside h ih =>
    exact ⟨.head (.lowCardinality hnullable h) ih.1, ih.2⟩
  | case3 nullable type hnullable hlow =>
    refine ⟨.refl, (isProper_iff nullable).mpr fun s h => ?_⟩
    cases h with
    | nullable h => exact nomatch hnullable.symm.trans h
    | lowCardinality _ h => exact nomatch hlow.symm.trans h

/-- One pass does not change where the passes end. -/
theorem unwrapAll_of_unwraps (h : Unwraps s s') : unwrapAll s.2 s.1 = unwrapAll s'.2 s'.1 := by
  cases h with
  | nullable h =>
    rw [unwrapAll]
    split
    next inside' h' =>
      cases h.symm.trans h'
      rfl
    next hnone => cases h.symm.trans hnone
  | lowCardinality hnullable h =>
    rw [unwrapAll]
    split
    next inside' h' => cases hnullable.symm.trans h'
    next =>
      split
      next inside' h' =>
        cases h.symm.trans h'
        rfl
      next hnone => cases h.symm.trans hnone

/-- A type proper is where the passes end. -/
theorem unwrapAll_of_isProper (h : IsProper type) (nullable : Bool) :
    unwrapAll nullable type = (type, nullable) := by
  rcases Relation.ReflTransGen.cases_head (reflTransGen_unwrapAll nullable type).1 with
    heq | ⟨s, hs, -⟩
  · exact heq.symm
  · exact absurd hs ((isProper_iff nullable).mp h s)

/-- **The passes undo a stack of wrappers.** -/
theorem unwrapAll_stack (h : IsProper base) (ws : List Wrapper) (nullable : Bool) :
    unwrapAll nullable (stack ws base) = (base, nullable || ws.any Wrapper.allowsNull) := by
  induction ws generalizing nullable with
  | nil => simpa using unwrapAll_of_isProper h nullable
  | cons w ws ih =>
    have hpass : Unwraps (stack (w :: ws) base, nullable)
        (stack ws base, nullable || w.allowsNull) :=
      unwraps_iff.mpr ⟨w, stack ws base, rfl, rfl⟩
    rw [List.any_cons, ← Bool.or_assoc, ← ih]
    exact unwrapAll_of_unwraps hpass

/-- **Every type is a type proper in a stack of wrappers.** -/
theorem exists_eq_stack (type : List Char) : ∃ ws base, type = stack ws base ∧ IsProper base := by
  induction hlength : type.length using Nat.strong_induction_on generalizing type with
  | h n ih =>
    by_cases hproper : IsProper type
    · exact ⟨[], type, rfl, hproper⟩
    · simp only [IsProper, ne_eq, not_forall, not_not] at hproper
      obtain ⟨w, inside, rfl⟩ := hproper
      have hshort := Wrapper.length_around w inside
      obtain ⟨ws, base, rfl, hbase⟩ := ih inside.length (by omega) inside rfl
      exact ⟨w :: ws, base, rfl, hbase⟩

/-- A wrapped type begins and ends without white space. -/
theorem isTrimmed_stack (h : Text.IsTrimmed base) (ws : List Wrapper) :
    Text.IsTrimmed (stack ws base) := by
  cases ws with
  | nil => exact h
  | cons w ws =>
    rw [Wrapper.stack_cons, around]
    refine ⟨fun c hc => ?_, fun c hc => ?_⟩
    · cases w <;>
      · cases hc
        decide
    · rw [← List.cons_append, ← List.append_assoc, List.getLast?_concat] at hc
      cases hc
      decide

/-- **The type of a column is read through all its wrappers.** Each pass shortens the type,
so there is an end to them, and they end with the type proper, from which the column is
read. If the type is a trimmed type proper in wrappers, whichever they are and in whatever
order, the kind of the column is that of the type proper, and null is allowed exactly if one
of the wrappers is the one that says so; and every type is of this form, but for the white
space around it. -/
theorem ofType_unwraps (name : String) :
    (∀ s s', Unwraps s s' → s'.1.length < s.1.length) ∧
    (∀ type : String, ∃ base nullable,
      Relation.ReflTransGen Unwraps (Text.trim type.toList, false) (base, nullable) ∧
      (∀ s, ¬ Unwraps (base, nullable) s) ∧
      ofType name type = ⟨name, ColumnKind.ofType base, nullable⟩) ∧
    (∀ ws base, Text.IsTrimmed base → IsProper base →
      ofType name (String.ofList (stack ws base))
        = ⟨name, ColumnKind.ofType base, decide (.nullable ∈ ws)⟩) ∧
    ∀ type, ∃ ws base, Text.trim type = stack ws base ∧ IsProper base := by
  refine ⟨fun s s' => Unwraps.length_lt, fun type => ?_, fun ws base htrimmed hproper => ?_,
    fun type => exists_eq_stack (Text.trim type)⟩
  · obtain ⟨hrun, hend⟩ := reflTransGen_unwrapAll false (Text.trim type.toList)
    exact ⟨_, _, hrun, (isProper_iff _).mp hend, rfl⟩
  · have htrim := Text.trim_of_isTrimmed (isTrimmed_stack htrimmed ws)
    rw [ofType, String.toList_ofList, htrim, unwrapAll_stack hproper, Wrapper.any_allowsNull,
      Bool.false_or]

/-- A type with brackets and a comma of its own, in three wrappers. -/
theorem ofType_unwraps_threeWrappers :
    ofType "k0" "LowCardinality(Nullable(LowCardinality(DateTime64(3, 'UTC'))))"
      = ⟨"k0", .datetime, true⟩ := by
  obtain ⟨base, hbase⟩ : ∃ base, base = "DateTime64(3, 'UTC')".toList := ⟨_, rfl⟩
  have htrimmed : Text.IsTrimmed base := by
    rw [hbase]
    decide
  have hproper : IsProper base := by
    rintro w inside rfl
    -- no wrapper begins with this letter
    cases w <;> exact absurd (List.cons.inj hbase).1 (by decide)
  have hcolumn := (ofType_unwraps "k0").2.2.1 [.lowCardinality, .nullable, .lowCardinality] base
    htrimmed hproper
  rw [hbase] at hcolumn
  exact hcolumn

end Column

end Readership

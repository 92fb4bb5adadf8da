import Mathlib.Data.List.Forall2
import Readership.Proofs.Sql.Guard

/-!
# Fragments of statements

A statement is put together from fragments, some with text of a caller in them.
Such text stands in a literal, and a literal that is written ends where it was
meant to end, whatever is in it (`Sql.stripInside_escapeChars`). So a fragment is
sealed: what follows it is read as if nothing stood before it (`Sql.Sealed`).

Two fragments are alike if both are sealed and the same is left of them once the
insides of their literals are gone (`Sql.Alike`). What is left has to be calm in
addition: no comment, no quoted name, no semicolon and, between blanks, none of
the keywords that the guard looks for (`Sql.Calm`). Alike fragments make alike
texts, as long as blanks, brackets or commas keep the fragments apart: across
these no comment begins and no keyword comes about. A relation between two
fragments does for both kinds of question, what two statements have in common and
what one statement looks like, since the latter asks about a fragment that is
alike to itself.
-/

namespace Readership.Sql

/-! ## Sealed fragments -/

/-- **What is left of a fragment** without the insides of its literals. -/
def bare (s : String) : List Char :=
  stripLiterals s.toList

/-- **A sealed fragment**: its literals end in it. Only a quote could go on with
the last of them. -/
def Sealed (s : String) : Prop :=
  ∀ rest : List Char, '\'' ∉ rest.head? →
    stripLiterals (s.toList ++ rest) = bare s ++ stripLiterals rest

/-- A text without quotes stays as it is, whatever follows. -/
theorem stripLiterals_append {cs : List Char} (h : '\'' ∉ cs) (rest : List Char) :
    stripLiterals (cs ++ rest) = cs ++ stripLiterals rest := by
  induction cs with
  | nil => rfl
  | cons c cs ih =>
    rw [List.mem_cons, not_or] at h
    rw [stripLiterals, List.cons_append, stripOutside_cons_of_ne (Ne.symm h.1)]
    exact congrArg (c :: ·) (ih h.2)

theorem stripLiterals_eq_self {cs : List Char} (h : '\'' ∉ cs) : stripLiterals cs = cs := by
  have hstrip := stripLiterals_append h []
  rwa [List.append_nil, stripLiterals, stripLiterals, stripOutside, List.append_nil] at hstrip

theorem bare_eq_toList {s : String} (h : '\'' ∉ s.toList) : bare s = s.toList :=
  stripLiterals_eq_self h

theorem sealed_of_not_mem {s : String} (h : '\'' ∉ s.toList) : Sealed s := by
  intro rest _
  rw [bare_eq_toList h, stripLiterals_append h]

/-- **An escaped text does not end a literal**, whatever the text is. -/
theorem stripInside_escapeChars (cs rest : List Char) :
    stripInside (escapeChars '\'' cs ++ rest) = stripInside rest := by
  induction cs with
  | nil => rfl
  | cons c cs ih =>
    rw [escapeChars_cons, List.append_assoc, ← ih]
    by_cases hslash : c = '\\'
    · subst hslash
      rfl
    · by_cases hquote : c = '\''
      · subst hquote
        rfl
      · rw [escapeChar_of_ne hslash hquote, List.singleton_append,
          stripInside_cons_of_ne hslash hquote]

/-- **Of a literal two quotes are left**, and what follows is read from the
beginning. -/
theorem stripLiterals_quoted (s : String) {rest : List Char} (h : '\'' ∉ rest.head?) :
    stripLiterals ((quoted s).toList ++ rest) = '\'' :: '\'' :: stripLiterals rest := by
  have htext : (quoted s).toList ++ rest = '\'' :: (escapeChars '\'' s.toList ++ '\'' :: rest) := by
    simp [quoted, escapeText]
  have hend : stripInside ('\'' :: rest) = '\'' :: stripOutside rest := by
    cases rest with
    | nil => rfl
    | cons c rest =>
      have hc : c ≠ '\'' := fun hc => h (hc ▸ rfl)
      rw [stripInside, stripAfterQuote, if_neg hc, stripOutside_cons_of_ne hc]
  rw [htext, stripLiterals, stripOutside, if_pos rfl, stripInside_escapeChars, hend, stripLiterals]

theorem bare_quoted (s : String) : bare (quoted s) = ['\'', '\''] := by
  have hnone : '\'' ∉ ([] : List Char).head? := nofun
  have hstrip := stripLiterals_quoted s hnone
  rwa [List.append_nil] at hstrip

theorem sealed_quoted (s : String) : Sealed (quoted s) := by
  intro rest hrest
  rw [stripLiterals_quoted s hrest, bare_quoted]
  rfl

variable {a b c d : String}

/-- What does not start with a quote is left on its own behind a sealed fragment. -/
theorem Sealed.bare_append (ha : Sealed a) (hb : '\'' ∉ b.toList.head?) :
    bare (a ++ b) = bare a ++ bare b := by
  rw [bare, String.toList_append, ha b.toList hb]
  rfl

/-- **Two sealed fragments make one**, unless a quote goes on with a literal. -/
theorem Sealed.append (ha : Sealed a) (hb : Sealed b) (hstart : '\'' ∉ b.toList.head?) :
    Sealed (a ++ b) := by
  intro rest hrest
  -- the second fragment may be empty, and then the rest follows the first
  have hboth : '\'' ∉ (b.toList ++ rest).head? := by
    cases hchars : b.toList with
    | nil => exact hrest
    | cons c cs => rwa [hchars] at hstart
  rw [ha.bare_append hstart, String.toList_append, List.append_assoc, ha _ hboth, hb rest hrest,
    List.append_assoc]

/-! ## Calm texts -/

/-- The characters that keep fragments apart. -/
def isJoint (c : Char) : Bool :=
  c = ' ' || c = '(' || c = ')' || c = ','

/-- The keywords that the guard looks for. -/
def keywords : List (List Char) :=
  ["INTO".toList, "FORMAT".toList]

/-- **A quiet text**: no piece of it between blanks is a keyword. -/
def Quiet (cs : List Char) : Prop :=
  ∀ piece ∈ Text.splitAt ' ' cs, Text.upper piece ∉ keywords

/-- **A calm text**: nothing in it alarms the guard. -/
structure Calm (cs : List Char) : Prop where
  onlyLiterals : OnlyLiterals cs
  noSemicolon : ';' ∉ cs
  quiet : Quiet cs

instance (cs : List Char) : Decidable (Quiet cs) :=
  inferInstanceAs (Decidable (∀ piece ∈ Text.splitAt ' ' cs, Text.upper piece ∉ keywords))

instance (cs : List Char) : Decidable (Calm cs) :=
  decidable_of_iff (OnlyLiterals cs ∧ ';' ∉ cs ∧ Quiet cs)
    ⟨fun ⟨h, hsemicolon, hquiet⟩ => ⟨h, hsemicolon, hquiet⟩,
      fun ⟨h, hsemicolon, hquiet⟩ => ⟨h, hsemicolon, hquiet⟩⟩

/-- **Texts that are kept apart** where they meet. -/
def Apart (u v : List Char) : Prop :=
  ∀ x ∈ u.getLast?, ∀ y ∈ v.head?, isJoint x = true ∨ isJoint y = true

/-- **A character that stays in capital letters** and is in no keyword keeps what it
stands in from being one. -/
theorem upper_not_mem_keywords {x : Char} (hupper : Text.upperChar x = [x])
    (hkeywords : ∀ keyword ∈ keywords, x ∉ keyword) {piece : List Char} (h : x ∈ piece) :
    Text.upper piece ∉ keywords := fun hkeyword =>
  hkeywords _ hkeyword (List.mem_flatMap.mpr ⟨x, h, hupper ▸ List.mem_singleton_self x⟩)

/-- So does a joint. -/
theorem upper_not_mem_keywords_of_isJoint {x : Char} (hx : isJoint x = true) {piece : List Char}
    (h : x ∈ piece) : Text.upper piece ∉ keywords := by
  simp only [isJoint, Bool.or_eq_true, decide_eq_true_eq] at hx
  rcases hx with ((rfl | rfl) | rfl) | rfl <;>
    exact upper_not_mem_keywords rfl (by decide) h

theorem noComment_of_isJoint {x y : Char} (h : isJoint x = true ∨ isJoint y = true) :
    NoComment x y := by
  rcases h with h | h
  · constructor <;> rintro ⟨rfl, -⟩ <;> exact absurd h (by decide)
  · constructor <;> rintro ⟨-, rfl⟩ <;> exact absurd h (by decide)

/-- Two texts with literals only make one, unless a comment begins between them. -/
theorem OnlyLiterals.append {u v : List Char} (hu : OnlyLiterals u) (hv : OnlyLiterals v)
    (h : ∀ x ∈ u.getLast?, ∀ y ∈ v.head?, NoComment x y) : OnlyLiterals (u ++ v) :=
  ⟨⟨List.not_mem_append hu.1.1 hv.1.1, List.not_mem_append hu.1.2 hv.1.2⟩,
    List.isChain_append.mpr ⟨hu.2, hv.2, h⟩⟩

/-- **Between texts that are kept apart** no comment begins. -/
theorem Apart.noComment {u v : List Char} (h : Apart u v) :
    ∀ x ∈ u.getLast?, ∀ y ∈ v.head?, NoComment x y :=
  fun x hx y hy => noComment_of_isJoint (h x hx y hy)

/-- **Between texts that are kept apart** no keyword comes about: the piece across the
border is one of either side, or has a joint in it. -/
theorem Quiet.append {u v : List Char} (hu : Quiet u) (hv : Quiet v) (h : Apart u v) :
    Quiet (u ++ v) := by
  obtain ⟨front, last, first, back, hlast, hfirst, hboth⟩ := Text.splitAt_append ' ' u v
  rw [Quiet, hlast, List.forall_mem_append, List.forall_mem_singleton] at hu
  rw [Quiet, hfirst, List.forall_mem_cons] at hv
  rw [Quiet, hboth, List.forall_mem_append, List.forall_mem_cons]
  refine ⟨hu.1, ?_, hv.2⟩
  -- if one side of the border is empty, the piece across it is the one on the other side
  by_cases hlast' : last = []
  · rw [hlast', List.nil_append]
    exact hv.1
  by_cases hfirst' : first = []
  · rw [hfirst', List.append_nil]
    exact hu.2
  -- otherwise the characters at the border both belong to it, and one of them is a joint
  obtain rfl | ⟨u, x, rfl⟩ := List.eq_nil_or_concat u
  · have hempty : [] ++ [[]] = front ++ [last] := hlast
    exact absurd (List.append_singleton_inj.mp hempty).2.symm hlast'
  cases v with
  | nil => exact absurd (List.cons.inj hfirst).1.symm hfirst'
  | cons y v =>
    rw [List.concat_eq_append] at hlast h
    rcases h x List.getLast?_concat y rfl with hx | hy
    · exact upper_not_mem_keywords_of_isJoint hx
        (List.mem_append_left _ ((Text.splitAt_concat_back hlast).resolve_left hlast'))
    · exact upper_not_mem_keywords_of_isJoint hy
        (List.mem_append_right _ ((Text.splitAt_cons_front hfirst).resolve_left hfirst'))

/-- A text without blanks is quiet unless it is a keyword. -/
theorem quiet_iff_of_not_mem {cs : List Char} (h : ' ' ∉ cs) :
    Quiet cs ↔ Text.upper cs ∉ keywords := by
  rw [Quiet, Text.splitAt_eq_singleton h, List.forall_mem_singleton]

/-- **Around a blank** a text is quiet where it is on either side. -/
theorem quiet_append_blank {u v : List Char} : Quiet (u ++ ' ' :: v) ↔ Quiet u ∧ Quiet v := by
  rw [Quiet, Text.splitAt_append_cons, List.forall_mem_append]
  rfl

/-- **Calm texts that are kept apart** make a calm text. -/
theorem Calm.append {u v : List Char} (hu : Calm u) (hv : Calm v) (h : Apart u v) :
    Calm (u ++ v) :=
  ⟨hu.onlyLiterals.append hv.onlyLiterals h.noComment,
    List.not_mem_append hu.noSemicolon hv.noSemicolon, hu.quiet.append hv.quiet h⟩

/-! ## Alike fragments -/

/-- **Alike fragments**: sealed, and calm and the same without the insides of their
literals. -/
structure Alike (a b : String) : Prop where
  sealedLeft : Sealed a
  sealedRight : Sealed b
  same : bare a = bare b
  calm : Calm (bare a)

/-- **An inert fragment**: calm as it is, without any literal. -/
def Inert (k : String) : Prop :=
  '\'' ∉ k.toList ∧ Calm k.toList

instance (k : String) : Decidable (Inert k) :=
  inferInstanceAs (Decidable (_ ∧ _))

/-- **A fragment that others may follow**, inert with a joint at the end. -/
def Opens (k : String) : Prop :=
  Inert k ∧ k.toList.getLast?.all isJoint = true

instance (k : String) : Decidable (Opens k) :=
  inferInstanceAs (Decidable (_ ∧ _))

/-- **A fragment that may follow others**, empty or with a joint in front. -/
def Trails (k : String) : Prop :=
  k.toList.head?.all isJoint = true

instance (k : String) : Decidable (Trails k) :=
  inferInstanceAs (Decidable (_ = _))

/-- **A fragment to close with**, inert with a joint in front. -/
def Closes (k : String) : Prop :=
  Inert k ∧ Trails k

instance (k : String) : Decidable (Closes k) :=
  inferInstanceAs (Decidable (_ ∧ _))

/-- **A fragment between others**, inert with a joint at either end. -/
def Links (k : String) : Prop :=
  Opens k ∧ Trails k ∧ k ≠ ""

instance (k : String) : Decidable (Links k) :=
  inferInstanceAs (Decidable (_ ∧ _))

/-- An inert fragment is alike to itself. -/
theorem Inert.alike (h : Inert a) : Alike a a :=
  ⟨sealed_of_not_mem h.1, sealed_of_not_mem h.1, rfl, bare_eq_toList h.1 ▸ h.2⟩

theorem alike_empty : Alike "" "" :=
  Inert.alike (by decide)

/-- **Any two literals are alike.** -/
theorem alike_quoted (s t : String) : Alike (quoted s) (quoted t) := by
  refine ⟨sealed_quoted s, sealed_quoted t, ?_, ?_⟩
  · rw [bare_quoted, bare_quoted]
  · rw [bare_quoted]
    decide

theorem Trails.not_quote (h : Trails a) : '\'' ∉ a.toList.head? := by
  intro hquote
  rw [Trails, Option.mem_def.mp hquote] at h
  exact absurd h (by decide)

/-- What trails is kept apart from everything in front. -/
theorem Trails.apart (h : Trails a) (u : List Char) : Apart u (bare a) := by
  intro x _ y hy
  rw [bare, stripLiterals] at hy
  rw [Trails] at h
  cases hchars : a.toList with
  | nil =>
    rw [hchars] at hy
    cases hy
  | cons c cs =>
    rw [hchars, stripOutside] at hy
    rw [hchars] at h
    cases hy
    exact .inr h

/-- What opens is kept apart from everything behind. -/
theorem Opens.apart (h : Opens a) (v : List Char) : Apart a.toList v := by
  intro x hx y _
  have hjoint := h.2
  rw [Option.mem_def.mp hx] at hjoint
  exact .inl hjoint

/-- **A fragment behind one that opens.** -/
theorem Alike.after {k : String} (hk : Opens k) (h : Alike a b) : Alike (k ++ a) (k ++ b) := by
  obtain ⟨hquote, hcalm⟩ := hk.1
  have hbare : ∀ s, bare (k ++ s) = k.toList ++ bare s := fun s => by
    rw [bare, String.toList_append, stripLiterals_append hquote, bare]
  have hsealed : ∀ {s}, Sealed s → Sealed (k ++ s) := fun {s} hs rest hrest => by
    rw [hbare, String.toList_append, List.append_assoc, stripLiterals_append hquote, hs rest hrest,
      List.append_assoc]
  refine ⟨hsealed h.sealedLeft, hsealed h.sealedRight, ?_, ?_⟩
  · rw [hbare, hbare, h.same]
  · rw [hbare]
    exact hcalm.append h.calm (hk.apart _)

/-- **A fragment that trails behind another.** -/
theorem Alike.append (h : Alike a b) (h' : Alike c d) (hc : Trails c) (hd : Trails d) :
    Alike (a ++ c) (b ++ d) := by
  have hleft := h.sealedLeft.bare_append hc.not_quote
  refine ⟨h.sealedLeft.append h'.sealedLeft hc.not_quote,
    h.sealedRight.append h'.sealedRight hd.not_quote, ?_, ?_⟩
  · rw [hleft, h.sealedRight.bare_append hd.not_quote, h.same, h'.same]
  · rw [hleft]
    exact h.calm.append h'.calm (hc.apart _)

/-- **A fragment in front of one that closes.** -/
theorem Alike.before {k : String} (h : Alike a b) (hk : Closes k) : Alike (a ++ k) (b ++ k) :=
  h.append hk.1.alike hk.2 hk.2

/-- What begins with a joint trails, whatever follows. -/
theorem Trails.append (h : Trails a) (hne : a ≠ "") (b : String) : Trails (a ++ b) := by
  rw [Trails, String.toList_append]
  rw [Trails] at h
  cases hchars : a.toList with
  | nil => exact absurd (String.toList_eq_nil_iff.mp hchars) hne
  | cons c cs => rwa [hchars] at h

/-- **Alike fragments that trail**, such as the clauses behind a table. -/
structure AlikeBehind (a b : String) : Prop where
  alike : Alike a b
  left : Trails a
  right : Trails b

theorem alikeBehind_empty : AlikeBehind "" "" :=
  ⟨alike_empty, by decide, by decide⟩

/-- A fragment behind a link. -/
theorem Alike.behind {k : String} (hk : Links k) (h : Alike a b) :
    AlikeBehind (k ++ a) (k ++ b) := by
  obtain ⟨hopens, htrails, hne⟩ := hk
  exact ⟨h.after hopens, htrails.append hne a, htrails.append hne b⟩

/-- **Two fragments with a link between them.** -/
theorem Alike.link {k : String} (hk : Links k) (h : Alike a b) (h' : Alike c d) :
    Alike (a ++ k ++ c) (b ++ k ++ d) := by
  rw [String.append_assoc, String.append_assoc]
  have hbehind := h'.behind hk
  exact h.append hbehind.alike hbehind.left hbehind.right

/-- **Fragments that trail make one that does.** -/
theorem AlikeBehind.append (h : AlikeBehind a b) (h' : AlikeBehind c d) :
    AlikeBehind (a ++ c) (b ++ d) := by
  have htrails {u v : String} (hu : Trails u) (hv : Trails v) : Trails (u ++ v) := by
    by_cases hempty : u = ""
    · rwa [hempty, String.empty_append]
    · exact hu.append hempty v
  exact ⟨h.alike.append h'.alike h'.left h'.right, htrails h.left h'.left,
    htrails h.right h'.right⟩

/-- **Fragments in a row** are alike if they are one by one. -/
theorem alike_joinWith {k : String} (hk : Links k) {as bs : List String}
    (h : List.Forall₂ Alike as bs) : Alike (Text.joinWith k as) (Text.joinWith k bs) := by
  induction h with
  | nil => exact alike_empty
  | @cons a b as bs hhead htail ih =>
    cases htail with
    | nil => exact hhead
    | cons _ _ => exact hhead.link hk ih

/-- Things in a row that are written alike. -/
theorem alike_joinWith_map {α : Type} {R : α → α → Prop} {write : α → String} {k : String}
    (hk : Links k) (hwrite : ∀ {x y}, R x y → Alike (write x) (write y)) {xs ys : List α}
    (h : List.Forall₂ R xs ys) :
    Alike (Text.joinWith k (xs.map write)) (Text.joinWith k (ys.map write)) := by
  refine alike_joinWith hk (List.forall₂_map_left_iff.mpr (List.forall₂_map_right_iff.mpr ?_))
  exact h.imp fun _ _ => hwrite

end Readership.Sql

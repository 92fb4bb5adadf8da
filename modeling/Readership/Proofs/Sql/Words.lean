import Readership.Proofs.Sql.Rendering

/-!
# The words of a statement

Between the words of a statement stand white space and commas, and what is quoted or in a
comment is no word (`Sql.wordsOf`). Where the quotes of a text end in the text
(`Sql.Finished`), its words are the same whatever follows behind white space or a comma
(`Sql.Finished.wordsOf_append`), and so a statement can be read word by word from the pieces
that it is put together from. What the guard sees would not do for this: the name of a table
may be quoted, and the guard does not know the marks of names.

Some pieces have to be known in less detail. A word with certain letters is not in a text that
is finished and does not have these letters outside of what is quoted (`Sql.Avoids`). So no
word in a selection begins another clause, however deep the selection is and whatever its
literals say (`Sql.inClause_selection`).
-/

namespace Readership.Sql

open Text (StartsWithout)

/-! ## Words -/

/-- The characters between the words of a statement: white space and commas. -/
def isBreak (c : Char) : Bool :=
  Text.isBlank c || c = ','

/-- **The words of a text**, with white space or commas between them. -/
def brokenWords (cs : List Char) : List String :=
  ((Text.splitAt ' ' (cs.map fun c => if isBreak c then ' ' else c)).filter
    (!·.isEmpty)).map String.ofList

/-- **The words of a statement**: those of what is neither quoted nor in a comment. -/
def wordsOf (s : String) : List String :=
  brokenWords (outline s.toList)

example : wordsOf "SELECT COUNT(*) AS v0, 'a, b' AS k0" =
    ["SELECT", "COUNT(*)", "AS", "v0", "''", "AS", "k0"] := by cbv

variable {c : Char} {cs : List Char}

/-- **A break keeps words apart.** -/
theorem brokenWords_append_cons (hc : isBreak c = true) (u v : List Char) :
    brokenWords (u ++ c :: v) = brokenWords u ++ brokenWords v := by
  simp [brokenWords, hc, Text.splitAt_append_cons]

theorem brokenWords_cons (hc : isBreak c = true) (cs : List Char) :
    brokenWords (c :: cs) = brokenWords cs :=
  brokenWords_append_cons hc [] cs

/-- A text without a break is one word. -/
theorem brokenWords_eq_singleton (hne : cs ≠ []) (h : ∀ c ∈ cs, isBreak c = false) :
    brokenWords cs = [String.ofList cs] := by
  have hmap : (cs.map fun c => if isBreak c then ' ' else c) = cs := by
    refine (List.map_congr_left fun c hc => ?_).trans (List.map_id cs)
    rw [h c hc]
    rfl
  have hblank : ' ' ∉ cs := fun hmem => absurd (h ' ' hmem) (by decide)
  rw [brokenWords, hmap, Text.splitAt_eq_singleton hblank]
  simp [hne]

/-- The characters of a word are in the text. -/
theorem mem_of_mem_brokenWords {w : String} (hw : w ∈ brokenWords cs) (hc : c ∈ w.toList)
    (hblank : c ≠ ' ') : c ∈ cs := by
  obtain ⟨piece, hpiece, rfl⟩ := List.mem_map.mp hw
  rw [String.toList_ofList] at hc
  have hmem : c ∈ cs.map fun c => if isBreak c then ' ' else c :=
    Text.mem_of_mem_splitAt (List.mem_of_mem_filter hpiece) hc
  obtain ⟨d, hd, rfl⟩ := List.mem_map.mp hmem
  split at hblank
  next => exact absurd rfl hblank
  next hbreak => rwa [if_neg hbreak]

/-! ## Finished texts -/

/-- The marks that quote. -/
def isMark (c : Char) : Bool :=
  c = '\'' || c = '"' || c = '`'

/-- **A finished text**: what is quoted ends in it, and no comment begins at its end. Only a
mark could go on with the last of what is quoted. -/
def Finished (s : String) : Prop :=
  ∀ rest, StartsWithout isMark rest →
    outline (s.toList ++ rest) = outline s.toList ++ outline rest

/-- The characters that quote or could begin a comment. -/
def specialChars : List Char :=
  ['\'', '"', '`', '-', '/']

/-- All other characters are code. -/
theorem ofCode_of_all {p : Char → Bool} (hspecial : specialChars.all (!p ·) = true)
    (hc : p c = true) : Place.ofCode c = .code ∧ isMark c = false := by
  have hne : ∀ d ∈ specialChars, c ≠ d := by
    rintro d hd rfl
    have hd := List.all_eq_true.mp hspecial c hd
    rw [hc] at hd
    cases hd
  simp only [specialChars, List.forall_mem_cons] at hne
  simp [Place.ofCode, isMark, hne]

/-- **A text without marks** that quote or could begin a comment. -/
def Unmarked (s : String) : Prop :=
  ∀ c ∈ s.toList, Place.ofCode c = .code

instance (s : String) : Decidable (Unmarked s) :=
  List.decidableBAll (fun c => Place.ofCode c = .code) s.toList

/-- Such a text stays as it is, whatever follows. -/
theorem outline_append (h : ∀ c ∈ cs, Place.ofCode c = .code) (rest : List Char) :
    outline (cs ++ rest) = cs ++ outline rest := by
  induction cs with
  | nil => rfl
  | cons c cs ih =>
    rw [List.forall_mem_cons] at h
    rw [List.cons_append, outline, outlineFrom, h.1]
    exact congrArg (c :: ·) (ih h.2)

theorem outline_eq_self (h : ∀ c ∈ cs, Place.ofCode c = .code) : outline cs = cs := by
  have hself := outline_append h []
  rwa [List.append_nil, show outline [] = [] from rfl, List.append_nil] at hself

variable {a b k s : String}

theorem Unmarked.outline_eq (h : Unmarked k) : outline k.toList = k.toList :=
  outline_eq_self h

theorem Unmarked.finished (h : Unmarked k) : Finished k := fun rest _ => by
  rw [h.outline_eq, outline_append h]

/-- Behind a finished text what does not begin with a mark is read on its own. -/
theorem Finished.outline_append (ha : Finished a) (hb : StartsWithout isMark b.toList) :
    outline (a ++ b).toList = outline a.toList ++ outline b.toList := by
  rw [String.toList_append, ha b.toList hb]

/-- **Two finished texts make one**, unless a mark stands between them. -/
theorem Finished.append (ha : Finished a) (hb : Finished b)
    (hstart : StartsWithout isMark b.toList) : Finished (a ++ b) := by
  intro rest hrest
  rw [ha.outline_append hstart, String.toList_append, List.append_assoc,
    ha _ (startsWithout_append hstart fun _ => hrest), hb rest hrest, List.append_assoc]

/-- Behind a text without marks anything is read on its own. -/
theorem Unmarked.outline_append (hk : Unmarked k) (b : String) :
    outline (k ++ b).toList = k.toList ++ outline b.toList := by
  rw [String.toList_append, Sql.outline_append hk]

theorem Unmarked.finished_append (hk : Unmarked k) (hb : Finished b) : Finished (k ++ b) := by
  intro rest hrest
  rw [hk.outline_append, String.toList_append, List.append_assoc, Sql.outline_append hk,
    hb rest hrest, List.append_assoc]

/-! ## Quoted texts -/

/-- **An escaped text does not end what is quoted**, whatever the text is. -/
theorem outlineFrom_escapeChars {mark : Char} (hmark : mark ≠ '\\') (cs rest : List Char) :
    outlineFrom (.quoted mark) (escapeChars mark cs ++ rest) = outlineFrom (.quoted mark) rest := by
  induction cs with
  | nil => rfl
  | cons c cs ih =>
    rw [escapeChars_cons, List.append_assoc, ← ih]
    by_cases hslash : c = '\\'
    · subst hslash
      rfl
    by_cases hquote : c = mark
    · subst hquote
      rw [escapeChar, if_neg hmark, if_pos rfl]
      rfl
    · rw [escapeChar_of_ne hslash hquote, List.singleton_append, outlineFrom, if_neg hslash,
        if_neg hquote]

/-- **Two marks are left of what is quoted.** -/
theorem outline_marked {mark : Char} (hmark : mark ∈ ['\'', '`']) (cs : List Char)
    {rest : List Char} (hrest : StartsWithout isMark rest) :
    outline (mark :: (escapeChars mark cs ++ mark :: rest)) = mark :: mark :: outline rest := by
  obtain ⟨hcode, hslash, hquotes⟩ :
      Place.ofCode mark = .quoted mark ∧ mark ≠ '\\' ∧ isMark mark = true := by
    rw [List.mem_cons, List.mem_singleton] at hmark
    rcases hmark with rfl | rfl <;> decide
  have hclosing : outlineFrom (.closing mark) rest = mark :: outline rest := by
    cases rest with
    | nil => rfl
    | cons c rest =>
      have hc : c ≠ mark := fun hc => absurd (hc ▸ hrest : isMark mark = false) (by simp [hquotes])
      rw [outlineFrom, if_neg hc]
      rfl
  rw [outline, outlineFrom, hcode, outlineFrom_escapeChars hslash, outlineFrom, if_neg hslash,
    if_pos rfl, hclosing]

theorem outline_quoted_append (s : String) {rest : List Char} (hrest : StartsWithout isMark rest) :
    outline ((quoted s).toList ++ rest) = '\'' :: '\'' :: outline rest := by
  have htext : (quoted s).toList ++ rest = '\'' :: (escapeChars '\'' s.toList ++ '\'' :: rest) := by
    simp [quoted, escapeText]
  rw [htext, outline_marked (by decide) _ hrest]

theorem outline_quoted (s : String) : outline (quoted s).toList = ['\'', '\''] := by
  have h := outline_quoted_append s (Text.startsWithout_nil isMark)
  rwa [List.append_nil] at h

theorem finished_quoted (s : String) : Finished (quoted s) := fun rest hrest => by
  rw [outline_quoted_append s hrest, outline_quoted]
  rfl

/-! ## Words of finished texts -/

/-- No break quotes or begins a comment. -/
theorem ofCode_of_isBreak (hc : isBreak c = true) : Place.ofCode c = .code ∧ isMark c = false :=
  ofCode_of_all (by decide) hc

/-- Where a text is empty or begins with a break. -/
def StartsApart (s : String) : Prop :=
  StartsWithout (fun c => !isBreak c) s.toList

theorem StartsApart.startsWithout (hb : StartsApart b) : StartsWithout isMark b.toList := by
  rw [StartsApart] at hb
  cases hchars : b.toList with
  | nil => trivial
  | cons c rest =>
    rw [hchars, Text.startsWithout_cons, Bool.not_eq_false'] at hb
    exact (ofCode_of_isBreak hb).2

/-- **Words one after the other.** Behind a finished text those of what is kept apart from it
are read on their own. -/
theorem Finished.wordsOf_append (ha : Finished a) (hb : StartsApart b) :
    wordsOf (a ++ b) = wordsOf a ++ wordsOf b := by
  cases hchars : b.toList with
  | nil => simp [String.toList_eq_nil_iff.mp hchars, wordsOf, brokenWords, outline, outlineFrom,
      Text.splitAt]
  | cons c rest =>
    have hc : isBreak c = true := by simpa [StartsApart, hchars] using hb
    have hrest : outline (c :: rest) = c :: outline rest := by
      rw [outline, outlineFrom, (ofCode_of_isBreak hc).1, outline]
    rw [wordsOf, wordsOf, wordsOf, ha.outline_append hb.startsWithout, hchars, hrest,
      brokenWords_append_cons hc, brokenWords_cons hc]

/-- **A gap**: breaks and nothing else. -/
def IsGap (k : String) : Prop :=
  k ≠ "" ∧ ∀ c ∈ k.toList, isBreak c = true

instance (k : String) : Decidable (IsGap k) :=
  have : Decidable (∀ c ∈ k.toList, isBreak c = true) :=
    List.decidableBAll (fun c => isBreak c = true) k.toList
  inferInstanceAs (Decidable (_ ∧ _))

theorem IsGap.unmarked (hk : IsGap k) : Unmarked k :=
  fun c hc => (ofCode_of_isBreak (hk.2 c hc)).1

theorem IsGap.startsApart (hk : IsGap k) (b : String) : StartsApart (k ++ b) := by
  obtain ⟨c, rest, hchars⟩ := List.exists_cons_of_ne_nil (mt String.toList_eq_nil_iff.mp hk.1)
  have hc : isBreak c = true := hk.2 c (hchars ▸ List.mem_cons_self)
  rw [StartsApart, String.toList_append, hchars, List.cons_append, Text.startsWithout_cons, hc]
  rfl

/-- There are no words in a gap. -/
theorem IsGap.wordsOf_append (hk : IsGap k) (b : String) : wordsOf (k ++ b) = wordsOf b := by
  have hwords {cs : List Char} (hcs : ∀ c ∈ cs, isBreak c = true) (rest : List Char) :
      brokenWords (cs ++ rest) = brokenWords rest := by
    induction cs with
    | nil => rfl
    | cons c cs ih =>
      rw [List.forall_mem_cons] at hcs
      rw [List.cons_append, brokenWords_cons hcs.1, ih hcs.2]
  rw [wordsOf, hk.unmarked.outline_append, hwords hk.2, wordsOf]

/-- **Two texts with a gap between them.** -/
theorem Finished.wordsOf_gap (ha : Finished a) (hk : IsGap k) (b : String) :
    wordsOf (a ++ k ++ b) = wordsOf a ++ wordsOf b := by
  rw [String.append_assoc, ha.wordsOf_append (hk.startsApart b), hk.wordsOf_append]

theorem Finished.gap (ha : Finished a) (hk : IsGap k) (hb : Finished b) :
    Finished (a ++ k ++ b) := by
  rw [String.append_assoc]
  exact ha.append (hk.unmarked.finished_append hb) (hk.startsApart b).startsWithout

/-- **Texts in a row** with gaps between them. -/
theorem finished_joinWith (hk : IsGap k) {parts : List String} (h : ∀ s ∈ parts, Finished s) :
    Finished (Text.joinWith k parts)
      ∧ wordsOf (Text.joinWith k parts) = parts.flatMap wordsOf := by
  induction parts with
  | nil => exact ⟨Unmarked.finished (k := "") (by decide), rfl⟩
  | cons s parts ih =>
    obtain ⟨hs, hparts⟩ := List.forall_mem_cons.mp h
    cases parts with
    | nil => exact ⟨hs, by simp⟩
    | cons t parts =>
      obtain ⟨hfinished, hwords⟩ := ih hparts
      rw [Text.joinWith_cons_cons]
      exact ⟨hs.gap hk hfinished, by rw [hs.wordsOf_gap hk, hwords]; rfl⟩

/-! ## Single words -/

theorem ofCode_of_isPlain (hc : isPlain c = true) : Place.ofCode c = .code :=
  (ofCode_of_all (by decide) hc).1

/-- **A text that is one word**, whatever is quoted in it. -/
structure OneWord (s : String) : Prop where
  finished : Finished s
  ne_nil : outline s.toList ≠ []
  noBreak : ∀ c ∈ outline s.toList, isBreak c = false

theorem OneWord.wordsOf_eq (h : OneWord s) : wordsOf s = [String.ofList (outline s.toList)] :=
  brokenWords_eq_singleton h.ne_nil h.noBreak

/-- **A plain text** is one word. -/
theorem oneWord_of_isPlain (hne : s ≠ "") (h : s.toList.all isPlain = true) :
    OneWord s ∧ wordsOf s = [s] := by
  rw [List.all_eq_true] at h
  have hunmarked : Unmarked s := fun c hc => ofCode_of_isPlain (h c hc)
  have hword : OneWord s := by
    refine ⟨hunmarked.finished, ?_, fun c hc => ?_⟩
    · rw [hunmarked.outline_eq]
      exact mt String.toList_eq_nil_iff.mp hne
    · rw [hunmarked.outline_eq] at hc
      rw [isBreak, isBlank_of_isPlain (h c hc), Bool.false_or, decide_eq_false_iff_not]
      rintro rfl
      exact absurd (h ',' hc) (by decide)
  refine ⟨hword, ?_⟩
  rw [hword.wordsOf_eq, hunmarked.outline_eq, String.ofList_toList]

/-- **Two words with a dot between them** are one. -/
theorem OneWord.dotted (ha : OneWord a) (hb : OneWord b) : OneWord (a ++ ("." ++ b)) := by
  have hdot : Unmarked "." := by decide
  have hstart : StartsWithout isMark ("." ++ b).toList := by
    rw [String.toList_append]
    exact rfl
  have houtline :
      outline (a ++ ("." ++ b)).toList = outline a.toList ++ '.' :: outline b.toList := by
    rw [ha.finished.outline_append hstart, hdot.outline_append]
    rfl
  refine ⟨ha.finished.append (hdot.finished_append hb.finished) hstart, ?_, ?_⟩
  · rw [houtline]
    simp
  · rw [houtline, List.forall_mem_append, List.forall_mem_cons]
    exact ⟨ha.noBreak, by decide, hb.noBreak⟩

/-- **A name is one word**: no more than the marks is left of one that is quoted. -/
theorem oneWord_nameChars (cs : List Char) : OneWord (String.ofList (nameChars cs)) := by
  rw [nameChars]
  split
  next hplain =>
    rw [Bool.and_eq_true] at hplain
    refine (oneWord_of_isPlain (fun h => ?_) (by rw [String.toList_ofList]; exact hplain.2)).1
    have hnil : cs = [] := by rw [← String.toList_ofList (l := cs), h]; rfl
    rw [hnil] at hplain
    exact absurd hplain.1 (by decide)
  next =>
    have hquoted {rest : List Char} (hrest : StartsWithout isMark rest) :
        outline ((String.ofList ('`' :: escapeChars '`' cs ++ ['`'])).toList ++ rest)
          = '`' :: '`' :: outline rest := by
      rw [String.toList_ofList, List.cons_append, List.cons_append, List.append_assoc]
      exact outline_marked (by decide) cs hrest
    have hself := hquoted (Text.startsWithout_nil isMark)
    rw [List.append_nil] at hself
    refine ⟨fun rest hrest => ?_, ?_, ?_⟩
    · rw [hquoted hrest, hself]
      rfl
    · rw [hself]
      simp
    · rw [hself, List.forall_mem_cons, List.forall_mem_cons]
      exact ⟨by decide, by decide, fun _ h => absurd h List.not_mem_nil⟩

/-- **A table is one word**, whatever its name. -/
theorem oneWord_table (name : String) : OneWord (table name) := by
  have hdotted {parts : List (List Char)} (hne : parts ≠ []) :
      OneWord (String.ofList (dottedChars parts)) := by
    induction parts with
    | nil => exact absurd rfl hne
    | cons part parts ih =>
      cases parts with
      | nil => exact oneWord_nameChars part
      | cons next parts =>
        have htext : String.ofList (dottedChars (part :: next :: parts))
            = String.ofList (nameChars part)
              ++ ("." ++ String.ofList (dottedChars (next :: parts))) := by
          rw [← String.toList_inj]
          simp [dottedChars]
        exact htext ▸ (oneWord_nameChars part).dotted (ih (by simp))
  exact hdotted (Text.splitAt_ne_nil '.' name.toList)

/-! ## Texts that avoid letters -/

/-- **A text that avoids letters**: finished, and without the letters outside of what is
quoted. -/
structure Avoids (letters : List Char) (s : String) : Prop where
  finished : Finished s
  letters : ∀ c ∈ outline s.toList, c ∉ letters

/-- A text without marks and letters to be avoided. -/
def Neutral (letters : List Char) (k : String) : Prop :=
  ∀ c ∈ k.toList, Place.ofCode c = .code ∧ c ∉ letters

instance (letters : List Char) (k : String) : Decidable (Neutral letters k) :=
  List.decidableBAll (fun c => Place.ofCode c = .code ∧ c ∉ letters) k.toList

variable {letters : List Char}

theorem Neutral.unmarked (hk : Neutral letters k) : Unmarked k :=
  fun c hc => (hk c hc).1

theorem Neutral.avoids (hk : Neutral letters k) : Avoids letters k :=
  ⟨hk.unmarked.finished, fun c hc => (hk c (hk.unmarked.outline_eq ▸ hc)).2⟩

/-- A mark is not plain code. -/
theorem Neutral.startsWithout (hk : Neutral letters k) : StartsWithout isMark k.toList := by
  cases hchars : k.toList with
  | nil => trivial
  | cons c rest =>
    have hcode := (hk c (hchars ▸ List.mem_cons_self)).1
    rw [Text.startsWithout_cons, isMark, ← Bool.not_eq_true]
    intro hmark
    rw [Place.ofCode, if_pos hmark] at hcode
    cases hcode

namespace Avoids

/-- **A word with such a letter** is not in the text. -/
theorem not_mem_wordsOf (h : Avoids letters s) {w : String} (hc : c ∈ letters ∧ c ≠ ' ')
    (hw : c ∈ w.toList) : w ∉ wordsOf s :=
  fun hmem => h.letters c (mem_of_mem_brokenWords hmem hw hc.2) hc.1

/-- **Two texts that avoid letters** make one, unless a mark stands between them. -/
theorem append (ha : Avoids letters a) (hb : Avoids letters b)
    (hstart : StartsWithout isMark b.toList) : Avoids letters (a ++ b) := by
  refine ⟨ha.finished.append hb.finished hstart, ?_⟩
  rw [ha.finished.outline_append hstart, List.forall_mem_append]
  exact ⟨ha.letters, hb.letters⟩

theorem after (hk : Neutral letters k) (h : Avoids letters a) : Avoids letters (k ++ a) := by
  refine ⟨hk.unmarked.finished_append h.finished, ?_⟩
  rw [hk.unmarked.outline_append, List.forall_mem_append]
  exact ⟨fun c hc => (hk c hc).2, h.letters⟩

theorem before (h : Avoids letters a) (hk : Neutral letters k) : Avoids letters (a ++ k) :=
  h.append hk.avoids hk.startsWithout

/-- Two such texts with another between them. -/
theorem link (hk : Neutral letters k) (hne : k ≠ "") (ha : Avoids letters a)
    (hb : Avoids letters b) : Avoids letters (a ++ k ++ b) := by
  rw [String.append_assoc]
  refine ha.append (hb.after hk) ?_
  rw [String.toList_append]
  exact startsWithout_append hk.startsWithout fun h => absurd (String.toList_eq_nil_iff.mp h) hne

theorem joinWith (hk : Neutral letters k) (hne : k ≠ "") {parts : List String}
    (h : ∀ s ∈ parts, Avoids letters s) : Avoids letters (Text.joinWith k parts) := by
  induction parts with
  | nil => exact Neutral.avoids (k := "") (fun c hc => absurd hc List.not_mem_nil)
  | cons s parts ih =>
    obtain ⟨hs, hparts⟩ := List.forall_mem_cons.mp h
    cases parts with
    | nil => exact hs
    | cons t parts => exact link hk hne hs (ih hparts)

end Avoids

theorem avoids_quoted (hletters : '\'' ∉ letters) (s : String) : Avoids letters (quoted s) := by
  refine ⟨finished_quoted s, ?_⟩
  rw [outline_quoted]
  simp [hletters]

/-- There are no capitals in a column. -/
theorem avoids_column (hletters : letters.all Char.isUpper = true) (f : Field) :
    Avoids letters f.column := by
  have hcolumn : (f.column.toList.all fun c => isPlain c && !c.isUpper) = true := by
    cases f <;> decide
  refine Neutral.avoids fun c hc => ?_
  obtain ⟨hplain, hlower⟩ := Bool.and_eq_true_iff.mp (List.all_eq_true.mp hcolumn c hc)
  refine ⟨ofCode_of_isPlain hplain, fun hmem => ?_⟩
  rw [List.all_eq_true.mp hletters c hmem] at hlower
  cases hlower

/-! ## Selections belong to one clause -/

/-- Letters of the words that begin the clauses behind a table: of `GROUP`, of `WHERE` and
`ORDER`, and of `LIMIT`. -/
def clauseLetters : List Char :=
  ['G', 'E', 'M']

/-- **A text that belongs to the clause that it stands in**: no word in it begins another. -/
abbrev InClause (s : String) : Prop :=
  Avoids clauseLetters s

theorem inClause_quoted (s : String) : InClause (quoted s) :=
  avoids_quoted (by decide) s

theorem inClause_column (f : Field) : InClause f.column :=
  avoids_column (by decide) f

theorem neutral_ofNat (n : Nat) : Neutral clauseLetters (Numeral.ofNat n) := by
  intro c hc
  rw [Numeral.ofNat, String.toList_ofList] at hc
  have hdigit := Numeral.isDigit_of_mem_digits hc
  refine ⟨ofCode_of_isPlain (by simp [isPlain, Char.isAlphanum, hdigit]), fun hletter => ?_⟩
  have hall : clauseLetters.all (!·.isDigit) = true := by decide
  have hletter := List.all_eq_true.mp hall c hletter
  rw [hdigit] at hletter
  cases hletter

/-- **A number**, in which a minus sign is followed by a digit. -/
theorem inClause_ofInt (n : Int) : InClause (Numeral.ofInt n) := by
  cases n with
  | ofNat n => exact (neutral_ofNat n).avoids
  | negSucc n =>
    obtain ⟨hfinished, hletters⟩ := (neutral_ofNat (n + 1)).avoids
    have hminus (rest : List Char) : outline ((Numeral.ofInt (.negSucc n)).toList ++ rest)
        = '-' :: outline ((Numeral.ofNat (n + 1)).toList ++ rest) := by
      obtain ⟨c, cs, hchars⟩ := List.exists_cons_of_ne_nil (Numeral.digits_ne_nil (n + 1))
      have hc : c ≠ '-' := by
        rintro rfl
        exact not_mem_digits rfl (n + 1) (hchars ▸ List.mem_cons_self)
      have htext : (Numeral.ofNat (n + 1)).toList = c :: cs := by
        rw [Numeral.ofNat, String.toList_ofList, hchars]
      rw [Numeral.ofInt, String.toList_append, htext]
      have hdash :
          outlineFrom .dash (c :: (cs ++ rest)) = outlineFrom .code (c :: (cs ++ rest)) := by
        simp [outlineFrom, hc]
      exact congrArg ('-' :: ·) hdash
    have hself := hminus []
    rw [List.append_nil, List.append_nil] at hself
    refine ⟨fun rest hrest => ?_, ?_⟩
    · rw [hminus, hfinished rest hrest, hself, List.cons_append]
    · rw [hself, List.forall_mem_cons]
      exact ⟨by decide, hletters⟩

/-- **A literal**, whatever it holds. -/
theorem inClause_literal (v : FieldValue) : InClause (literal v) := by
  cases v with
  | null => exact Neutral.avoids (by decide)
  | int n => exact inClause_ofInt n
  | text s => exact inClause_quoted s
  | instant t =>
    obtain ⟨opening, separator, s, hmem, htext⟩ := exists_literal_instant t
    have hneutral : ∀ k ∈ [("toDateTime(", ", "), ("toDateTime64(", ", 9, ")],
        Neutral clauseLetters k.1 ∧ Neutral clauseLetters k.2 ∧ k.2 ≠ "" := by decide
    obtain ⟨hopening, hseparator, hne⟩ := hneutral _ hmem
    rw [htext]
    exact (Avoids.link hseparator hne ((inClause_quoted s).after hopening)
      (inClause_quoted _)).before (by decide)

theorem inClause_requirePresent (f : Field) (h : InClause s) : InClause (requirePresent f s) := by
  rw [requirePresent]
  split
  · exact (Avoids.link (by decide) (by decide) ((inClause_column f).after (by decide)) h).before
      (by decide)
  · exact h

theorem inClause_allowAbsent (f : Field) (h : InClause s) : InClause (allowAbsent f s) := by
  rw [allowAbsent]
  split
  · exact (Avoids.link (by decide) (by decide) ((inClause_column f).after (by decide)) h).before
      (by decide)
  · exact h

theorem inClause_comparison (f : Field) (op : Relation) (v : FieldValue) :
    InClause (comparison f op.spelling v) := by
  have hop : InClause op.spelling := by cases op <;> exact Neutral.avoids (by decide)
  exact Avoids.link (by decide) (by decide)
    (Avoids.link (by decide) (by decide) (inClause_column f) hop) (inClause_literal v)

/-- **The test of a field.** -/
theorem inClause_criterion (k : Criterion) : InClause (criterion k) := by
  obtain ⟨f, t⟩ := k
  cases t with
  | eq v =>
    cases v with
    | null => exact (inClause_column f).before (by decide)
    | _ => exact inClause_requirePresent f (inClause_comparison f .eq _)
  | ne v =>
    cases v with
    | null => exact (inClause_column f).before (by decide)
    | _ => exact inClause_allowAbsent f (inClause_comparison f .ne _)
  | gt v => exact inClause_requirePresent f (inClause_comparison f .gt v)
  | gte v => exact inClause_requirePresent f (inClause_comparison f .ge v)
  | lt v => exact inClause_requirePresent f (inClause_comparison f .lt v)
  | lte v => exact inClause_requirePresent f (inClause_comparison f .le v)
  | isIn vs =>
    unfold criterion
    simp only
    split
    · exact Neutral.avoids (by decide)
    · have hlist : InClause (Text.joinWith ", " ((vs.filter (!·.isNull)).map literal)) := by
        refine Avoids.joinWith (by decide) (by decide) fun s hs => ?_
        obtain ⟨v, -, rfl⟩ := List.mem_map.mp hs
        exact inClause_literal v
      exact inClause_requirePresent f
        ((Avoids.link (by decide) (by decide) (inClause_column f) hlist).before (by decide))
  | contains s =>
    exact inClause_requirePresent f ((Avoids.link (by decide) (by decide)
      ((inClause_column f).after (by decide)) (inClause_quoted s)).before (by decide))

theorem inClause_members {separator : String}
    (hseparator : Neutral clauseLetters separator ∧ separator ≠ "") {parts : List Selection}
    (h : ∀ s ∈ parts, InClause (selection s)) :
    InClause ("(" ++ Text.joinWith separator (selections parts) ++ ")") := by
  rw [selections_eq_map]
  refine ((Avoids.joinWith hseparator.1 hseparator.2 ?_).after (by decide)).before (by decide)
  exact List.forall_mem_map.mpr h

/-- **The text of a selection belongs to one clause**, however deep the selection is. -/
theorem inClause_selection : ∀ s : Selection, InClause (selection s)
  | .all => Neutral.avoids (by decide)
  | .criterion k => by
    rw [selection]
    exact inClause_criterion k
  | .and [] => Neutral.avoids (by decide)
  | .or [] => Neutral.avoids (by decide)
  | .and (p :: parts) => by
    rw [selection]
    exact inClause_members (by decide) fun s _ => inClause_selection s
  | .or (p :: parts) => by
    rw [selection]
    exact inClause_members (by decide) fun s _ => inClause_selection s
  | .not part => by
    rw [selection]
    exact ((inClause_selection part).after (by decide)).before (by decide)

end Readership.Sql

import Readership.Proofs.Calendar.Written
import Readership.Sql.Spelling
import Readership.View.Field

/-!
# The tokens of an expression

A server reads an expression as words, numbers, literals between single quotes
and a few signs, with white space between them. Where a token ends is decided
by the character behind it, so a text is said to *spell* tokens
(`Spells`) if they are read off whatever follows, as long as that neither
continues a word or a number nor doubles a quote, and to spell them *closed*
(`SpellsClosed`) if nothing that follows could change them. Pieces that spell
tokens spell them one after the other, and so every text made of words,
literals and signs can be read piece by piece.

The piece that matters is the literal. Within single quotes a backslash takes
the next character out of its role, and a text escaped by `escapeChars` is read
as the text it was (`spells_quoted`).
-/

namespace Readership.Sql

open Text (Reader StartsWithout trimStart readAll?)

/-- A word with a meaning of its own. -/
inductive Keyword where
  | and
  | or
  | not
  | is
  | isIn
  | null
deriving DecidableEq, Repr

/-- A relation between two values. -/
inductive Relation where
  | eq
  | ne
  | lt
  | le
  | gt
  | ge
deriving DecidableEq, Repr

/-- **A token.** -/
inductive Token where
  | word (w : String)
  | keyword (k : Keyword)
  | number (n : Nat)
  /-- A literal between single quotes. -/
  | text (s : String)
  | relation (r : Relation)
  | opening
  | closing
  | comma
  | minus
deriving DecidableEq, Repr

namespace Keyword

/-- Every keyword. -/
def all : List Keyword := [and, or, not, is, isIn, null]

/-- A keyword in capitals. -/
def spelling : Keyword → String
  | and => "AND"
  | or => "OR"
  | not => "NOT"
  | is => "IS"
  | isIn => "IN"
  | null => "NULL"

/-- The keyword that a word is, in letters of either case. -/
def ofChars? (cs : List Char) : Option Keyword :=
  all.find? fun k => k.spelling.toList == cs.map Char.toUpper

end Keyword

/-- The sign of a relation. -/
def Relation.spelling : Relation → String
  | eq => "="
  | ne => "!="
  | lt => "<"
  | le => "<="
  | gt => ">"
  | ge => ">="

/-- What a backslash makes of the character behind it. -/
def unescape? (c : Char) : Option Char :=
  if c = '\\' || c = '\'' || c = '"' || c = '`' then some c
  else [('n', '\n'), ('t', '\t'), ('r', '\r'), ('0', '\x00'), ('a', '\x07'), ('b', '\x08'),
    ('v', '\x0b'), ('f', '\x0c')].lookup c

/-- **The inside of a literal**, after its opening quote, up to a quote that
neither a backslash nor another quote takes out of its role. -/
def inside? : Reader (List Char)
  | [] => none
  | c :: rest =>
    if c = '\\' then
      match rest with
      | [] => none
      | d :: rest => do
        let meant ← unescape? d
        let (cs, rest) ← inside? rest
        pure (meant :: cs, rest)
    else if c = '\'' then
      match rest with
      | [] => some ([], [])
      | d :: rest =>
        if d = '\'' then do
          let (cs, rest) ← inside? rest
          pure ('\'' :: cs, rest)
        else some ([], d :: rest)
    else do
      let (cs, rest) ← inside? rest
      pure (c :: cs, rest)

/-- The token that a run of plain characters is. -/
def tokenOfRun (run : List Char) : Token :=
  if run.all Char.isDigit then .number (Numeral.value run)
  else match Keyword.ofChars? run with
    | some k => .keyword k
    | none => .word (String.ofList run)

/-- A sign of two characters, or of one. -/
def sign? : Reader Token
  | '!' :: '=' :: rest => some (.relation .ne, rest)
  | '<' :: '=' :: rest => some (.relation .le, rest)
  | '>' :: '=' :: rest => some (.relation .ge, rest)
  | '<' :: '>' :: rest => some (.relation .ne, rest)
  | '=' :: rest => some (.relation .eq, rest)
  | '<' :: rest => some (.relation .lt, rest)
  | '>' :: rest => some (.relation .gt, rest)
  | '(' :: rest => some (.opening, rest)
  | ')' :: rest => some (.closing, rest)
  | ',' :: rest => some (.comma, rest)
  | '-' :: rest => some (.minus, rest)
  | _ => none

/-- **The first token** of a text that does not start with white space. -/
def bareToken? (cs : List Char) : Option (Token × List Char) :=
  match cs with
  | [] => none
  | c :: rest =>
    if c = '\'' then (inside? rest).map fun read => (.text (String.ofList read.1), read.2)
    else if isPlain c then some (tokenOfRun (cs.takeWhile isPlain), cs.dropWhile isPlain)
    else sign? cs

/-- The first token, with the white space behind it. -/
def token? : Reader Token := fun cs =>
  (bareToken? cs).map fun read => (read.1, trimStart read.2)

/-- **The tokens of a text.** -/
def tokens? (cs : List Char) : Option (List Token) :=
  readAll? token? (trimStart cs)

/-! ## One token at a time -/

@[simp] theorem tokens?_nil : tokens? [] = some [] := by simp [tokens?]

/-- White space between tokens is passed over. -/
theorem tokens?_blank {c : Char} (hc : Text.isBlank c = true) (rest : List Char) :
    tokens? (c :: rest) = tokens? rest := by
  rw [tokens?, tokens?, trimStart, List.dropWhile_cons_of_pos hc]
  rfl

theorem length_trimStart_le (cs : List Char) : (trimStart cs).length ≤ cs.length :=
  (List.dropWhile_sublist _).length_le

/-- **A token and what follows it.** -/
theorem tokens?_of_bareToken? {cs rest : List Char} {t : Token}
    (hstart : StartsWithout Text.isBlank cs) (hread : bareToken? cs = some (t, rest))
    (hlt : rest.length < cs.length) : tokens? cs = (tokens? rest).map (t :: ·) := by
  have htoken : token? cs = some (t, trimStart rest) := by rw [token?, hread]; rfl
  rw [tokens?, Text.trimStart_of_startsWithout hstart]
  exact Text.readAll?_of_read htoken (Nat.lt_of_le_of_lt (length_trimStart_le rest) hlt)

/-! ## Texts that spell tokens -/

/-- The characters that could continue a token: those of words and numbers,
and a quote. -/
def continues (c : Char) : Bool :=
  isPlain c || c == '\''

/-- **A text spells tokens**, before anything that does not continue it. -/
def Spells (s : String) (ts : List Token) : Prop :=
  ∀ rest : List Char, StartsWithout continues rest →
    tokens? (s.toList ++ rest) = (tokens? rest).map (ts ++ ·)

/-- **A text spells tokens**, before anything. -/
def SpellsClosed (s : String) (ts : List Token) : Prop :=
  ∀ rest : List Char, tokens? (s.toList ++ rest) = (tokens? rest).map (ts ++ ·)

variable {s s' : String} {ts ts' : List Token}

/-- A text that spells tokens is read as these tokens. -/
theorem Spells.tokens?_eq (h : Spells s ts) : tokens? s.toList = some ts := by
  have hall := h [] trivial
  simpa using hall

theorem SpellsClosed.spells (h : SpellsClosed s ts) : Spells s ts :=
  fun rest _ => h rest

theorem SpellsClosed.append (h : SpellsClosed s ts) (h' : SpellsClosed s' ts') :
    SpellsClosed (s ++ s') (ts ++ ts') := by
  intro rest
  rw [String.toList_append, List.append_assoc, h, h', Option.map_map]
  simp [Function.comp_def]

/-- **Tokens one after the other.** -/
theorem SpellsClosed.append_spells (h : SpellsClosed s ts) (h' : Spells s' ts') :
    Spells (s ++ s') (ts ++ ts') := by
  intro rest hrest
  rw [String.toList_append, List.append_assoc, h, h' rest hrest, Option.map_map]
  simp [Function.comp_def]

theorem startsWithout_append {p : Char → Bool} {cs rest : List Char}
    (h : StartsWithout p cs) (hrest : cs = [] → StartsWithout p rest) :
    StartsWithout p (cs ++ rest) := by
  cases cs with
  | nil => exact hrest rfl
  | cons c cs => exact h

/-- **Tokens one after the other**, the second text ending the first. -/
theorem Spells.append_closed (h : Spells s ts) (h' : SpellsClosed s' ts')
    (hne : s'.toList ≠ []) (hend : StartsWithout continues s'.toList) :
    SpellsClosed (s ++ s') (ts ++ ts') := by
  intro rest
  rw [String.toList_append, List.append_assoc, h _ (startsWithout_append hend (absurd · hne)), h',
    Option.map_map]
  simp [Function.comp_def]

theorem Spells.append (h : Spells s ts) (h' : Spells s' ts')
    (hend : StartsWithout continues s'.toList) : Spells (s ++ s') (ts ++ ts') := by
  intro rest hrest
  rw [String.toList_append, List.append_assoc, h _ (startsWithout_append hend fun _ => hrest),
    h' rest hrest, Option.map_map]
  simp [Function.comp_def]

/-! ## White space and signs -/

theorem spellsClosed_blank : SpellsClosed " " [] := by
  intro rest
  show tokens? (' ' :: rest) = _
  rw [tokens?_blank rfl]
  simp

/-- A sign that stands for itself whatever follows. -/
theorem spellsClosed_sign {c : Char} {t : Token} (hblank : Text.isBlank c = false)
    (hquote : c ≠ '\'') (hplain : isPlain c = false)
    (hsign : ∀ rest, sign? (c :: rest) = some (t, rest)) :
    SpellsClosed (String.ofList [c]) [t] := by
  intro rest
  rw [String.toList_ofList, List.singleton_append]
  refine tokens?_of_bareToken? hblank ?_ (Nat.lt_succ_self _)
  rw [bareToken?, if_neg hquote, hplain, if_neg (by decide), hsign]

theorem spellsClosed_opening : SpellsClosed "(" [.opening] :=
  spellsClosed_sign rfl (by decide) rfl fun _ => rfl

theorem spellsClosed_closing : SpellsClosed ")" [.closing] :=
  spellsClosed_sign rfl (by decide) rfl fun _ => rfl

theorem spellsClosed_comma : SpellsClosed "," [.comma] :=
  spellsClosed_sign rfl (by decide) rfl fun _ => rfl

theorem spellsClosed_minus : SpellsClosed "-" [.minus] :=
  spellsClosed_sign rfl (by decide) rfl fun _ => rfl

/-- **A relation** and the blank behind it. -/
theorem spellsClosed_relation (r : Relation) :
    SpellsClosed (r.spelling ++ " ") [.relation r] := by
  intro rest
  have hbare : bareToken? ((r.spelling ++ " ").toList ++ rest)
      = some (.relation r, ' ' :: rest) := by cases r <;> rfl
  have hstart : StartsWithout Text.isBlank ((r.spelling ++ " ").toList ++ rest) := by
    cases r <;> exact rfl
  have hlt : (' ' :: rest).length < ((r.spelling ++ " ").toList ++ rest).length := by
    cases r <;> simp [Relation.spelling]
  rw [tokens?_of_bareToken? hstart hbare hlt, tokens?_blank rfl]
  rfl

/-! ## Words and numbers -/

theorem isBlank_of_isPlain {c : Char} (h : isPlain c = true) : Text.isBlank c = false := by
  have hplain : (((decide (c.val ≥ 'A'.val ∧ c.val ≤ 'Z'.val))
      || (decide (c.val ≥ 'a'.val) && decide (c.val ≤ 'z'.val)))
      || (decide (c.val ≥ '0'.val) && decide (c.val ≤ '9'.val))) || decide (c = '_') := h
  have hrange : 48 ≤ c.toNat ∧ c.toNat ≤ 122 := by
    simp only [Bool.or_eq_true, Bool.and_eq_true, decide_eq_true_eq] at hplain
    rcases hplain with ((⟨hl, hu⟩ | ⟨hl, hu⟩) | ⟨hl, hu⟩) | rfl
    · exact ⟨Nat.le_trans (by decide) hl, Nat.le_trans hu (by decide)⟩
    · exact ⟨Nat.le_trans (by decide) hl, Nat.le_trans hu (by decide)⟩
    · exact ⟨Nat.le_trans (by decide) hl, Nat.le_trans hu (by decide)⟩
    · decide
  simp only [Text.isBlank, Bool.or_eq_false_iff, Bool.and_eq_false_iff, beq_eq_false_iff_ne,
    decide_eq_false_iff_not]
  omega

/-- **A run of plain characters** is one token. -/
theorem spells_run {run : List Char} (hne : run ≠ []) (hplain : ∀ c ∈ run, isPlain c = true) :
    Spells (String.ofList run) [tokenOfRun run] := by
  intro rest hrest
  have hstop : StartsWithout isPlain rest := by
    cases rest with
    | nil => trivial
    | cons c cs =>
      rw [Text.startsWithout_cons, continues, Bool.or_eq_false_iff] at hrest
      exact hrest.1
  obtain ⟨c, cs, rfl⟩ := List.exists_cons_of_ne_nil hne
  have hc : isPlain c = true := hplain c List.mem_cons_self
  have hquote : c ≠ '\'' := by
    rintro rfl
    exact absurd hc (by decide)
  have hbare : bareToken? (c :: cs ++ rest) = some (tokenOfRun (c :: cs), rest) := by
    rw [List.cons_append, bareToken?, if_neg hquote, if_pos hc, ← List.cons_append,
      Text.takeWhile_append_of_startsWithout hplain hstop,
      Text.dropWhile_append_of_startsWithout hplain hstop]
  rw [String.toList_ofList]
  refine tokens?_of_bareToken? (isBlank_of_isPlain hc) hbare ?_
  rw [List.length_append, List.length_cons]
  omega

/-- **A number in digits.** -/
theorem spells_number (n : Nat) : Spells (Numeral.ofNat n) [.number n] := by
  have hdigits : (Numeral.digits n).all Char.isDigit = true :=
    List.all_eq_true.mpr fun _ => Numeral.isDigit_of_mem_digits
  have htoken : tokenOfRun (Numeral.digits n) = .number n := by
    rw [tokenOfRun, if_pos hdigits, Numeral.value_digits]
  rw [← htoken]
  refine spells_run (Numeral.digits_ne_nil n) fun c hc => ?_
  have := Numeral.isDigit_of_mem_digits hc
  simp [isPlain, Char.isAlphanum, this]

/-- A word is a word if it is not a number and not a keyword. -/
def IsWord (w : String) : Prop :=
  w.toList ≠ [] ∧ w.toList.all isPlain = true ∧ w.toList.all Char.isDigit = false
    ∧ Keyword.ofChars? w.toList = none

instance (w : String) : Decidable (IsWord w) :=
  inferInstanceAs (Decidable (_ ∧ _))

theorem spells_word {w : String} (h : IsWord w) : Spells w [.word w] := by
  obtain ⟨hne, hplain, hdigit, hkey⟩ := h
  have hrun := spells_run hne (List.all_eq_true.mp hplain)
  rwa [tokenOfRun, hdigit, if_neg (by decide), hkey, String.ofList_toList] at hrun

/-- The name of a column is a word. -/
theorem isWord_column (f : Field) : IsWord f.column := by
  cases f <;> decide

theorem spells_keyword (k : Keyword) : Spells k.spelling [.keyword k] := by
  have hne : k.spelling.toList ≠ [] := by cases k <;> decide
  have hplain : k.spelling.toList.all isPlain = true := by cases k <;> rfl
  have htoken : tokenOfRun k.spelling.toList = .keyword k := by cases k <;> rfl
  have hrun := spells_run hne (List.all_eq_true.mp hplain)
  rwa [htoken, String.ofList_toList] at hrun

/-- Words with a blank in front of each. -/
def phrase : List Keyword → String
  | [] => ""
  | k :: ks => " " ++ k.spelling ++ phrase ks

theorem startsWithout_phrase (ks : List Keyword) : StartsWithout continues (phrase ks).toList := by
  cases ks with
  | nil => trivial
  | cons k ks =>
    rw [phrase, String.append_assoc, String.toList_append]
    exact rfl

/-- **Keywords one after the other.** -/
theorem spells_phrase (ks : List Keyword) : Spells (phrase ks) (ks.map .keyword) := by
  induction ks with
  | nil => exact fun rest _ => by simp [phrase]
  | cons k ks ih =>
    exact (spellsClosed_blank.append_spells (spells_keyword k)).append ih (startsWithout_phrase ks)

/-! ## Literals -/

/-- **A literal is read as the text it was written for.** -/
theorem inside?_escapeChars (cs : List Char) {rest : List Char}
    (hrest : StartsWithout (· == '\'') rest) :
    inside? (escapeChars '\'' cs ++ '\'' :: rest) = some (cs, rest) := by
  induction cs with
  | nil =>
    cases rest with
    | nil => rfl
    | cons d rest =>
      have hd : d ≠ '\'' := by simpa using hrest
      show inside? ('\'' :: d :: rest) = _
      rw [inside?.eq_def]
      simp [hd]
  | cons c cs ih =>
    rw [escapeChars_cons, List.append_assoc]
    by_cases hslash : c = '\\'
    · subst hslash
      have hmeant : unescape? '\\' = some '\\' := rfl
      show inside? ('\\' :: '\\' :: (escapeChars '\'' cs ++ '\'' :: rest)) = _
      simp [inside?, ih, hmeant]
    by_cases hquote : c = '\''
    · subst hquote
      have hmeant : unescape? '\'' = some '\'' := rfl
      show inside? ('\\' :: '\'' :: (escapeChars '\'' cs ++ '\'' :: rest)) = _
      simp [inside?, ih, hmeant]
    · -- any other character stands for itself, inside and outside
      rw [escapeChar_of_ne hslash hquote, List.singleton_append, inside?.eq_def]
      simp only [hslash, hquote, if_false, ih]
      rfl

/-- **A literal is one token**, whatever it holds. -/
theorem spells_quoted (s : String) : Spells (quoted s) [.text s] := by
  intro rest hrest
  have hstop : StartsWithout (· == '\'') rest := by
    cases rest with
    | nil => trivial
    | cons c cs =>
      rw [Text.startsWithout_cons, continues, Bool.or_eq_false_iff] at hrest
      exact hrest.2
  have hchars : (quoted s).toList ++ rest
      = '\'' :: (escapeChars '\'' s.toList ++ '\'' :: rest) := by
    simp [quoted, escapeText]
  have hbare : bareToken? ((quoted s).toList ++ rest) = some (.text s, rest) := by
    rw [hchars, bareToken?, if_pos rfl, inside?_escapeChars s.toList hstop]
    simp
  refine tokens?_of_bareToken? ?_ hbare ?_
  · rw [hchars]
    exact rfl
  · rw [hchars]
    simp
    omega

end Readership.Sql

import Mathlib.Data.List.Infix
import Readership.Proofs.Text.Search
import Readership.Server.Exchange

/-!
# The message of a failed query

A server that cannot run a statement answers with a line of text – a message, and behind it
the version of the server – and lines of a trace below it. What is reported is the line up
to the version, and the version is found by the words in front of it.

The message may quote the statement, and the statement may hold these words, in a literal of
a filter for instance. The line is cut where they stand first, so what is reported of such a
message is what stands in front of them (`exceptionChars_exceptionBody`). A message is kept
exactly if they do not occur in it and it does not end in a beginning of them that the version
completes (`Connection.execute_reports_message`).
-/

namespace Readership

/-- The word in front of the version of a server, and the bracket that opens there. -/
def versionWord : List Char :=
  "(version".toList

/-- **The mark of a version**: the word, between blanks. -/
def versionMark : List Char :=
  ' ' :: (versionWord ++ [' '])

/-- **A message as servers write it**: one line, without white space at its ends. -/
structure IsMessage (message : List Char) : Prop where
  oneLine : '\n' ∉ message
  trimmed : Text.IsTrimmed message

/-- The end of a line. -/
def IsLineEnd (lineEnd : List Char) : Prop :=
  lineEnd = ['\n'] ∨ lineEnd = ['\r', '\n']

/-- The line of a message, with the version of the server behind it. -/
def messageLine (message version : List Char) : List Char :=
  message ++ versionMark ++ version ++ [')']

/-- **The body of an error**: the line of the message, and a trace below it. -/
def exceptionBody (message version lineEnd trace : List Char) : List Char :=
  messageLine message version ++ (lineEnd ++ trace)

variable {message version lineEnd trace line : List Char}

/-! ## The first line -/

/-- What is left of the first line behind a text, if the rest of the body is cut off
somewhere, is white space. -/
theorem isBlank_of_mem_takeWhile {rest : List Char} (hend : IsLineEnd lineEnd)
    (h : rest <+: lineEnd ++ trace) : ∀ c ∈ rest.takeWhile (· != '\n'), Text.isBlank c = true := by
  intro c hc
  have hne : c ≠ '\n' := by simpa using List.mem_takeWhile_imp hc
  have hbefore : rest.takeWhile (· != '\n') <+: lineEnd ++ trace :=
    (List.takeWhile_prefix _).trans h
  rcases List.prefix_or_prefix_of_prefix hbefore (List.prefix_append lineEnd trace) with
    hshort | hlong
  · rcases hend with rfl | rfl
    · exact absurd (List.mem_singleton.mp (hshort.mem hc)) hne
    · have hreturn : c = '\r' := by simpa [hne] using hshort.mem hc
      rw [hreturn]
      decide
  · -- the line would go on behind its end
    have hmem : '\n' ∈ lineEnd := by rcases hend with rfl | rfl <;> simp
    exact absurd (List.mem_takeWhile_imp (hlong.mem hmem)) (by simp)

/-- **The first line of a body** is what the mark is looked for in. -/
theorem exceptionChars_append (h : IsMessage line) (hne : line ≠ []) (hend : IsLineEnd lineEnd) :
    exceptionChars (line ++ (lineEnd ++ trace)) = (Text.before? versionMark line).getD line := by
  obtain ⟨rest, hrest, htrim⟩ := Text.exists_trim_append h.trimmed hne (lineEnd ++ trace)
  have hall : ∀ c ∈ line, (c != '\n') = true := by
    intro c hc
    simpa using fun heq : c = '\n' => h.oneLine (heq ▸ hc)
  have hline : Text.trim ((line ++ rest).takeWhile (· != '\n')) = line := by
    rw [List.takeWhile_append_of_pos hall]
    exact Text.trim_append_append (List.forall_mem_nil _)
      (isBlank_of_mem_takeWhile hend hrest) h.trimmed
  rw [exceptionChars, htrim, hline]
  rfl

/-- A body of one line. -/
theorem exceptionChars_of_isMessage (h : IsMessage line) :
    exceptionChars line = (Text.before? versionMark line).getD line := by
  have htrim := Text.trim_of_isTrimmed h.trimmed
  have hline : line.takeWhile (· != '\n') = line := by
    refine List.takeWhile_eq_self_iff.mpr fun c hc => ?_
    simpa using fun heq : c = '\n' => h.oneLine (heq ▸ hc)
  rw [exceptionChars, htrim, hline, htrim]
  rfl

/-- White space in front of a body is passed over. -/
theorem exceptionChars_cons {c : Char} (hc : Text.isBlank c = true) (body : List Char) :
    exceptionChars (c :: body) = exceptionChars body := by
  have htrim : Text.trim (c :: body) = Text.trim body := by
    rw [Text.trim, Text.trimStart, List.dropWhile_cons_of_pos hc]
    rfl
  rw [exceptionChars, htrim]
  rfl

/-! ## The version -/

theorem versionMark_ne_nil : versionMark ≠ [] := List.cons_ne_nil _ _

/-- A mark has no blank in it but the first and the last. -/
theorem dropLast_versionMark : versionMark.dropLast = ' ' :: versionWord := by decide

theorem blank_not_mem_versionWord : ' ' ∉ versionWord := by decide

/-- A blank behind the message is the first that the version brings. -/
theorem append_cons_versionWord (message rest : List Char) :
    message ++ ' ' :: (versionWord ++ rest) = (message ++ [' ']) ++ (versionWord ++ rest) :=
  List.append_cons message ' ' _

/-- **The version completes a mark** where the message ends in all of it but its last blank:
the mark ends with a blank, and the version brings but one. -/
theorem versionMark_isInfix_dropLast_iff :
    versionMark <:+: message ++ versionMark.dropLast ↔ versionMark <:+: message ++ [' '] := by
  have hsplit : message ++ versionMark.dropLast = (message ++ [' ']) ++ versionWord := by
    rw [dropLast_versionMark, List.append_cons]
  rw [hsplit]
  refine ⟨?_, fun h => h.trans (List.prefix_append _ _).isInfix⟩
  rintro ⟨front, back, h⟩
  have hmark : front ++ versionMark <+: (message ++ [' ']) ++ versionWord := ⟨back, h⟩
  have hin : versionMark <:+: front ++ versionMark := (List.suffix_append _ _).isInfix
  rcases List.prefix_or_prefix_of_prefix hmark (List.prefix_append _ _) with
    hshort | ⟨rest, hrest⟩
  · exact hin.trans hshort.isInfix
  · obtain rfl | ⟨rest, c, rfl⟩ := List.eq_nil_or_concat rest
    · rw [List.append_nil] at hrest
      rwa [hrest]
    · -- otherwise the mark would end within the word
      rw [List.concat_eq_append] at hrest
      have hword : rest ++ [c] ++ back = versionWord := by
        rw [← hrest, List.append_assoc (message ++ [' '])] at h
        exact List.append_cancel_left h
      have hblank : c = ' ' := by
        rw [versionMark, ← List.cons_append, ← List.append_assoc, ← List.append_assoc] at hrest
        simpa using (List.append_inj' hrest rfl).2
      refine absurd ?_ blank_not_mem_versionWord
      rw [← hword, hblank]
      simp

/-- The line of a message with something in it. -/
theorem isMessage_messageLine (h : IsMessage message) (hne : message ≠ [])
    (hversion : '\n' ∉ version) : IsMessage (messageLine message version) := by
  obtain ⟨c, rest, rfl⟩ := List.exists_cons_of_ne_nil hne
  refine ⟨?_, fun d hd => h.trimmed.1 d hd, fun d hd => ?_⟩
  · have hmark : '\n' ∉ versionMark := by decide
    simp only [messageLine, List.mem_append, List.mem_singleton, not_or]
    exact ⟨⟨⟨h.oneLine, hmark⟩, hversion⟩, by decide⟩
  · rw [messageLine, List.getLast?_concat] at hd
    cases hd
    decide

/-- **What is reported of a message** is what stands in front of the first mark in it, where
a blank behind the message counts, and all of it if there is none. -/
theorem exceptionChars_exceptionBody (h : IsMessage message) (hne : message ≠ [])
    (hversion : '\n' ∉ version) (hend : IsLineEnd lineEnd) :
    exceptionChars (exceptionBody message version lineEnd trace)
      = (Text.before? versionMark (message ++ [' '])).getD message := by
  have hlineNe : messageLine message version ≠ [] := by simp [messageLine]
  have hsplit : messageLine message version
      = (message ++ [' ']) ++ (versionWord ++ (' ' :: (version ++ [')']))) := by
    rw [messageLine, versionMark, ← append_cons_versionWord]
    simp
  rw [exceptionBody, exceptionChars_append (isMessage_messageLine h hne hversion) hlineNe hend]
  cases hfirst : Text.before? versionMark (message ++ [' ']) with
  | some front =>
    rw [hsplit, Text.before?_append versionMark_ne_nil hfirst]
    rfl
  | none =>
    have hmessage : Text.before? versionMark (messageLine message version) = some message := by
      rw [Text.before?_eq_some_iff versionMark_ne_nil, versionMark_isInfix_dropLast_iff]
      refine ⟨?_, Text.before?_eq_none_iff.mp hfirst⟩
      rw [messageLine, List.append_assoc _ version]
      exact List.prefix_append _ _
    rw [hmessage]
    rfl

/-- **A message that is nothing** is not reported as such: the version stands where it would
be. -/
theorem exceptionChars_exceptionBody_nil (hversion : '\n' ∉ version) (hend : IsLineEnd lineEnd) :
    exceptionChars (exceptionBody [] version lineEnd trace) ≠ [] := by
  obtain ⟨word, hword, hone⟩ : ∃ word, versionWord = '(' :: word ∧ '\n' ∉ word :=
    ⟨_, rfl, by decide⟩
  obtain ⟨line, hline⟩ : ∃ line, line = '(' :: (word ++ ' ' :: version ++ [')']) := ⟨_, rfl⟩
  have hbody : exceptionBody [] version lineEnd trace = ' ' :: (line ++ (lineEnd ++ trace)) := by
    simp [exceptionBody, messageLine, versionMark, hword, hline]
  have hmessage : IsMessage line := by
    refine ⟨?_, fun c hc => ?_, fun c hc => ?_⟩
    · simp [hline, hone, hversion]
    · rw [hline] at hc
      cases hc
      decide
    · rw [hline, ← List.cons_append, List.getLast?_concat] at hc
      cases hc
      decide
  have hne : line ≠ [] := by simp [hline]
  rw [hbody, exceptionChars_cons (by decide), exceptionChars_append hmessage hne hend]
  cases hfirst : Text.before? versionMark line with
  | none => exact hne
  | some front =>
    rintro rfl
    -- a line that begins with a bracket does not begin with the mark
    have hfront := ((Text.before?_eq_some_iff versionMark_ne_nil).mp hfirst).1
    rw [List.nil_append, hline] at hfront
    exact absurd (List.cons_prefix_cons.mp hfront).1 (by decide)

/-! ## What is reported -/

/-- **The first mark of a text** stands behind `front`, and not in it or across its end. -/
structure IsBeforeMark (text front : List Char) : Prop where
  stands : front ++ versionMark <+: text
  first : ¬ versionMark <:+: front ++ versionMark.dropLast

theorem before?_versionMark_eq_some_iff {text front : List Char} :
    Text.before? versionMark text = some front ↔ IsBeforeMark text front :=
  (Text.before?_eq_some_iff versionMark_ne_nil).trans ⟨fun h => ⟨h.1, h.2⟩, fun h => ⟨h.1, h.2⟩⟩

/-- **The cut is noticed**: nothing is cut off a text exactly if there is no mark in it, also
if a last blank does not count. -/
theorem getD_before?_eq_iff {text : List Char} (h : text.length ≤ message.length + 1) :
    (Text.before? versionMark text).getD message = message ↔ ¬ versionMark <:+: text := by
  rw [← Text.before?_eq_none_iff]
  cases hfirst : Text.before? versionMark text with
  | none => simp
  | some front =>
    have hlength := (before?_versionMark_eq_some_iff.mp hfirst).stands.length_le
    have hmark : versionMark.length = 10 := rfl
    rw [List.length_append, hmark] at hlength
    refine iff_of_false (fun heq : front = message => ?_) nofun
    rw [heq] at hlength
    omega

/-- Where there is a mark, what stands in front of the first one is left. -/
theorem isBeforeMark_getD_before? {text : List Char} (h : versionMark <:+: text) :
    IsBeforeMark text ((Text.before? versionMark text).getD message) := by
  cases hfirst : Text.before? versionMark text with
  | none => exact absurd h (Text.before?_eq_none_iff.mp hfirst)
  | some front => exact before?_versionMark_eq_some_iff.mp hfirst

/-- **A message is kept** where there is one, no mark is in it, and it does not end in a
beginning of one that the version completes. -/
theorem exceptionChars_exceptionBody_eq_iff (h : IsMessage message) (hversion : '\n' ∉ version)
    (hend : IsLineEnd lineEnd) :
    exceptionChars (exceptionBody message version lineEnd trace) = message
      ↔ message ≠ [] ∧ ¬ versionMark <:+: message ++ [' '] := by
  by_cases hne : message = []
  · subst hne
    exact iff_of_false (exceptionChars_exceptionBody_nil hversion hend) fun hkept => hkept.1 rfl
  · rw [exceptionChars_exceptionBody h hne hversion hend, getD_before?_eq_iff (by simp)]
    simp [hne]

/-- **Some message is cut**: one that quotes a text with the mark in it. -/
theorem exceptionChars_exceptionBody_quoted :
    ¬ ∀ message version trace : List Char, IsMessage message → message ≠ [] →
      '\n' ∉ version → exceptionChars (exceptionBody message version ['\n'] trace) = message := by
  intro h
  have hmessage : IsMessage "Cannot parse ' (version 2' as a number".toList :=
    ⟨by decide, by decide⟩
  have hkept := h _ "24.3.1.1".toList [] hmessage (by decide) (by decide)
  rw [exceptionChars_exceptionBody_eq_iff hmessage (by decide) (.inl rfl)] at hkept
  exact hkept.2 (Text.occursIn_iff.mp (by decide))

/-- **A message that is cut** is cut in front of its first mark. -/
theorem isBeforeMark_exceptionChars (h : IsMessage message) (hversion : '\n' ∉ version)
    (hend : IsLineEnd lineEnd) (hmark : versionMark <:+: message ++ [' ']) :
    IsBeforeMark (message ++ [' '])
      (exceptionChars (exceptionBody message version lineEnd trace)) := by
  have hne : message ≠ [] := by
    rintro rfl
    exact absurd hmark (by decide)
  rw [exceptionChars_exceptionBody h hne hversion hend]
  exact isBeforeMark_getD_before? hmark

namespace Connection

variable {m : Type → Type} [Monad m] [LawfulMonad m] {c : Connection} {sql : String} {status : Nat}

/-- **An error status** is reported with what the body says. -/
theorem execute_of_errorStatus (husable : c.isUsable = true)
    (hpasses : Sql.refusal? sql.toList = none) (hstatus : ¬ (200 ≤ status ∧ status ≤ 299))
    (body : List Char) :
    c.execute (fun _ => pure (.answered status (String.ofList body))) sql
      = (pure (.error (.status status (String.ofList (exceptionChars body)))) : m _) := by
  have hdelivery : (Delivery.answered status (String.ofList body)).body
      = .error (.status status (String.ofList (exceptionChars body))) := by
    have hfail : (decide (200 ≤ status) && decide (status ≤ 299)) = false := by
      simpa using hstatus
    rw [Delivery.body, hfail, String.toList_ofList]
    rfl
  rw [execute, hpasses]
  simp only [fetch, husable, if_true, pure_bind, hdelivery]
  rfl

/-- **What is reported of a failed query.** A server answers with an error status and a
message. If the version and a trace follow, the message is reported as it is exactly if
there is one, the mark of the version is not in it, and it does not end in a beginning of the
mark that the version completes; else what stands in front of the first mark in it. If
nothing follows, it is reported as it is exactly if the mark is not in it. -/
theorem execute_reports_message (husable : c.isUsable = true)
    (hpasses : Sql.refusal? sql.toList = none) (hstatus : ¬ (200 ≤ status ∧ status ≤ 299))
    {message : List Char} (h : IsMessage message) :
    (∀ version lineEnd trace, '\n' ∉ version → IsLineEnd lineEnd → ∃ reported,
      c.execute (fun _ => pure (.answered status
          (String.ofList (exceptionBody message version lineEnd trace)))) sql
        = (pure (.error (.status status (String.ofList reported))) : m _) ∧
      (reported = message ↔ message ≠ [] ∧ ¬ versionMark <:+: message ++ [' ']) ∧
      (versionMark <:+: message ++ [' '] → IsBeforeMark (message ++ [' ']) reported)) ∧
    ∃ reported,
      c.execute (fun _ => pure (.answered status (String.ofList message))) sql
        = (pure (.error (.status status (String.ofList reported))) : m _) ∧
      (reported = message ↔ ¬ versionMark <:+: message) ∧
      (versionMark <:+: message → IsBeforeMark message reported) := by
  refine ⟨fun version lineEnd trace hversion hend =>
    ⟨_, execute_of_errorStatus husable hpasses hstatus _,
      exceptionChars_exceptionBody_eq_iff h hversion hend,
      isBeforeMark_exceptionChars h hversion hend⟩,
    _, execute_of_errorStatus husable hpasses hstatus _, ?_⟩
  rw [exceptionChars_of_isMessage h]
  exact ⟨getD_before?_eq_iff (by simp), isBeforeMark_getD_before?⟩

/-- A message that quotes the word without the blank in front of it is kept. -/
theorem execute_reports_message_unknownTable :
    (toUrl "http://localhost").execute (m := Id) (fun _ => pure (.answered 404 (String.ofList
        (exceptionBody "Table '(version 2)' does not exist. (UNKNOWN_TABLE)".toList
          "24.3.1.1".toList ['\r', '\n'] "0. frame\n".toList)))) "SELECT 1"
      = .error (.status 404 "Table '(version 2)' does not exist. (UNKNOWN_TABLE)") := by
  have husable : (toUrl "http://localhost").isUsable = true := by decide +kernel
  have hpasses : Sql.refusal? "SELECT 1".toList = none := by decide +kernel
  have hmessage : IsMessage "Table '(version 2)' does not exist. (UNKNOWN_TABLE)".toList :=
    ⟨by decide, by decide⟩
  have hnone : Text.occursIn versionMark
      ("Table '(version 2)' does not exist. (UNKNOWN_TABLE)".toList ++ [' ']) = false := by decide
  obtain ⟨hversion, -⟩ := execute_reports_message (m := Id) husable hpasses
    (by decide : ¬ (200 ≤ 404 ∧ 404 ≤ 299)) hmessage
  obtain ⟨reported, hreported, hkept, -⟩ := hversion "24.3.1.1".toList ['\r', '\n']
    "0. frame\n".toList (by decide) (.inr rfl)
  have hsame := hkept.mpr ⟨by decide, fun hmark => by
    rw [Text.occursIn_iff.mpr hmark] at hnone
    cases hnone⟩
  rw [hsame] at hreported
  exact hreported

end Connection

end Readership

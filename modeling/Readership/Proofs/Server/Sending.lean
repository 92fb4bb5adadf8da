import Readership.Proofs.Sql.Literals
import Readership.Server.Exchange

/-!
# What is sent is what was looked at

The guard looks at a statement without the insides of its literals, and takes the white
space and the semicolons off the ends of that. What is sent is the statement itself with
white space and semicolons taken off its own ends, and with a clause behind it. Nothing
makes the two cuts fall in the same place but the way in which literals are read: both
ends of a statement are outside of its literals, or else what is cut off there stands in a
literal that is never closed. So cutting and looking can change places
(`Sql.dropSemicolons_guarded`).

Where all literals are closed, what is cut off was looked at, the clause stands in no
literal, and the server reads what the guard did with the clause behind it. A statement
that does not pass the guard is not sent at all (`Connection.execute_sends_guarded`).
-/

namespace Readership

namespace Sql

/-- **The body of a statement**: what is sent of it, without the clause. -/
def body (cs : List Char) : List Char :=
  dropSemicolons (Text.trim cs)

/-- The clause behind it. -/
def answerClause : List Char :=
  " FORMAT JSONCompact".toList

variable {cs : List Char}

/-- **What is cut off a statement**: white space in front, and semicolons and white space
behind. The body begins like a trimmed text. -/
theorem exists_eq_append_body (cs : List Char) :
    ∃ lead semicolons blanks, cs = lead ++ body cs ++ (semicolons ++ blanks) ∧
      (∀ c ∈ lead, Text.isBlank c = true) ∧ (∀ c ∈ semicolons, c = ';') ∧
      (∀ c ∈ blanks, Text.isBlank c = true) ∧ Text.IsTrimmed (body cs ++ semicolons) := by
  obtain ⟨lead, blanks, hcs, hlead, hblanks, htrimmed⟩ := Text.exists_eq_append_trim cs
  obtain ⟨semicolons, htrim, hsemicolons⟩ :=
    Text.exists_eq_append_dropTrailing (· == ';') (Text.trim cs)
  have hbody : Text.trim cs = body cs ++ semicolons := htrim
  rw [hbody] at hcs htrimmed
  rw [List.append_assoc, List.append_assoc, ← List.append_assoc lead] at hcs
  exact ⟨lead, semicolons, blanks, hcs, hlead, fun c hc => beq_iff_eq.mp (hsemicolons c hc),
    hblanks, htrimmed⟩

/-- White space and semicolons are no quotes. -/
theorem not_mem_of_isBlank (h : ∀ c ∈ cs, Text.isBlank c = true) : '\'' ∉ cs := fun hmem =>
  absurd (h _ hmem) (by decide)

theorem not_mem_of_semicolons (h : ∀ c ∈ cs, c = ';') : '\'' ∉ cs := fun hmem =>
  absurd (h _ hmem) (by decide)

/-- **Looking does not bring white space to the ends.** -/
theorem isTrimmed_stripLiterals_append {rest : List Char} (h : Text.IsTrimmed (cs ++ rest)) :
    Text.IsTrimmed (stripLiterals cs ++ rest) := by
  refine ⟨fun c hc => h.1 c ?_, fun c hc => ?_⟩
  · rwa [List.head?_append, head?_stripLiterals, ← List.head?_append] at hc
  · rw [List.getLast?_append, getLast?_stripLiterals] at hc
    split at hc
    · exact h.2 c (by rwa [List.getLast?_append])
    · cases hrest : rest.getLast? with
      | none =>
        rw [hrest] at hc
        cases hc
        rfl
      | some d =>
        rw [hrest] at hc
        cases hc
        exact h.2 c (by rw [List.getLast?_append, hrest]; rfl)

/-- What is left in front of a literal that is not closed is trimmed as it is. -/
theorem isTrimmed_stripLiterals_of_not_closed {rest : List Char}
    (h : Text.IsTrimmed (cs ++ rest)) (hclosed : ¬ Closed cs) :
    Text.IsTrimmed (stripLiterals cs) := by
  refine ⟨fun c hc => h.1 c ?_, fun c hc => ?_⟩
  · rw [head?_stripLiterals] at hc
    rw [List.head?_append, hc]
    rfl
  · have houtside : Mode.outside.after cs ≠ .outside := fun heq => hclosed (.inl heq)
    rw [getLast?_stripLiterals, if_neg houtside] at hc
    cases hc
    rfl

/-- The body does not end in a semicolon, and neither does what is left of it. -/
theorem dropSemicolons_stripLiterals_body (cs : List Char) :
    dropSemicolons (stripLiterals (body cs)) = stripLiterals (body cs) := by
  refine Text.dropTrailing_eq_self fun c hc => ?_
  rw [getLast?_stripLiterals] at hc
  split at hc
  · exact Text.eq_false_of_mem_getLast?_dropTrailing c hc
  · cases hc
    rfl

/-- **Cutting and looking change places**: what the guard looks at, without semicolons at
its end, is what is left of the body of the statement. -/
theorem dropSemicolons_guarded (cs : List Char) :
    dropSemicolons (guarded cs) = stripLiterals (body cs) := by
  obtain ⟨lead, semicolons, blanks, hcs, hlead, hsemicolons, hblanks, htrimmed⟩ :=
    exists_eq_append_body cs
  have hstrip : stripLiterals cs = lead ++ stripLiterals (body cs ++ (semicolons ++ blanks)) := by
    conv_lhs => rw [hcs]
    rw [List.append_assoc, stripLiterals_append (not_mem_of_isBlank hlead)]
  have hquote : '\'' ∉ semicolons ++ blanks :=
    List.not_mem_append (not_mem_of_semicolons hsemicolons) (not_mem_of_isBlank hblanks)
  by_cases hclosed : Closed (body cs)
  · -- the semicolons are outside of literals, and the guard sees them
    have hguarded : guarded cs = stripLiterals (body cs) ++ semicolons := by
      rw [guarded, hstrip, stripLiterals_append_of_closed hclosed hquote, ← List.append_assoc,
        ← List.append_assoc, List.append_assoc lead]
      exact Text.trim_append_append hlead hblanks (isTrimmed_stripLiterals_append htrimmed)
    have hall : ∀ c ∈ semicolons, (c == ';') = true := fun c hc => beq_iff_eq.mpr (hsemicolons c hc)
    rw [hguarded, dropSemicolons, Text.dropTrailing_append_of_all _ hall]
    exact dropSemicolons_stripLiterals_body cs
  · -- they are in a literal that goes on, and the guard sees none of them
    have hguarded : guarded cs = stripLiterals (body cs) := by
      rw [guarded, hstrip, stripLiterals_append_of_not_closed hclosed hquote,
        ← List.append_nil (lead ++ _)]
      exact Text.trim_append_append hlead (List.forall_mem_nil _)
        (isTrimmed_stripLiterals_of_not_closed htrimmed hclosed)
    rw [hguarded]
    exact dropSemicolons_stripLiterals_body cs

/-- The body has closed literals where the statement has. -/
theorem closed_body_iff (cs : List Char) : Closed (body cs) ↔ Closed cs := by
  obtain ⟨lead, semicolons, blanks, hcs, hlead, hsemicolons, hblanks, -⟩ := exists_eq_append_body cs
  have hquote : '\'' ∉ semicolons ++ blanks :=
    List.not_mem_append (not_mem_of_semicolons hsemicolons) (not_mem_of_isBlank hblanks)
  conv_rhs => rw [hcs]
  rw [closed_append_iff hquote, append_closed_iff (not_mem_of_isBlank hlead)]

/-- **What is cut off closed literals was looked at**: it stands outside of them. -/
theorem stripLiterals_eq_append_body (h : Closed cs) :
    ∃ lead tail, cs = lead ++ body cs ++ tail ∧
      stripLiterals cs = lead ++ stripLiterals (body cs) ++ tail := by
  obtain ⟨lead, semicolons, blanks, hcs, hlead, hsemicolons, hblanks, -⟩ := exists_eq_append_body cs
  have hquote : '\'' ∉ semicolons ++ blanks :=
    List.not_mem_append (not_mem_of_semicolons hsemicolons) (not_mem_of_isBlank hblanks)
  refine ⟨lead, semicolons ++ blanks, hcs, ?_⟩
  conv_lhs => rw [hcs]
  rw [List.append_assoc, stripLiterals_append (not_mem_of_isBlank hlead),
    stripLiterals_append_of_closed ((closed_body_iff cs).mpr h) hquote, List.append_assoc]

end Sql

namespace Connection

open Sql

variable {cs : List Char}

theorem statementChars_eq (cs : List Char) : statementChars cs = body cs ++ answerClause := rfl

/-- **Behind closed literals the clause is read as a clause.** -/
theorem stripLiterals_statementChars_of_closed (h : Closed cs) :
    stripLiterals (statementChars cs) = dropSemicolons (guarded cs) ++ answerClause := by
  rw [statementChars_eq, stripLiterals_append_of_closed ((closed_body_iff cs).mpr h) (by decide),
    dropSemicolons_guarded]

/-- In a literal that is not closed it is not read at all. -/
theorem stripLiterals_statementChars_of_not_closed (h : ¬ Closed cs) :
    stripLiterals (statementChars cs) = dropSemicolons (guarded cs) := by
  rw [statementChars_eq,
    stripLiterals_append_of_not_closed (mt (closed_body_iff cs).mp h) (by decide),
    dropSemicolons_guarded]

/-- **What passes the guard is sent as one statement.** -/
theorem semicolon_not_mem_statementChars (h : refusal? cs = none) :
    ';' ∉ stripLiterals (statementChars cs) := by
  have hsingle : ';' ∉ dropSemicolons (guarded cs) := by
    have hone := oneStatement_iff.mp (refusal?_eq_none_iff.mp h).single
    rwa [← Bool.not_eq_true, List.contains_iff_mem] at hone
  by_cases hclosed : Closed cs
  · rw [stripLiterals_statementChars_of_closed hclosed]
    exact List.not_mem_append hsingle (by decide)
  · rw [stripLiterals_statementChars_of_not_closed hclosed]
    exact hsingle

end Connection

/-! ## Posting -/

/-- **A way to post that keeps count**: each request is noted before it goes out. -/
def Post.noted {m : Type → Type} [Monad m] (post : Post m) : Post (StateT (List Request) m) :=
  fun request => do
    modify (· ++ [request])
    StateT.lift (post request)

namespace Connection

open Sql

variable {m : Type → Type} [Monad m] (c : Connection) (post : Post m)

/-- **A statement that is refused is not posted**, whatever the connection. -/
theorem run_execute_of_refused {sql : String} {refusal : Refusal}
    (h : refusal? sql.toList = some refusal) (sent : List Request) :
    (c.execute post.noted sql).run sent = pure (.error (.statement refusal.message), sent) := by
  rw [execute, h]
  rfl

variable [LawfulMonad m]

/-- **Any other one is posted once**, if the URL can be used. -/
theorem run_execute_of_passes {sql : String} (h : refusal? sql.toList = none)
    (sent : List Request) :
    (c.execute post.noted sql).run sent
      = if c.isUsable then
          post (c.request (String.ofList (statementChars sql.toList))) >>= fun delivery =>
            pure (delivery.body >>= Answer.ofBody,
              sent ++ [c.request (String.ofList (statementChars sql.toList))])
        else pure (.error (.connection "not a usable URL"), sent) := by
  rw [execute, h]
  by_cases husable : c.isUsable = true
  · simp [fetch, husable, Post.noted]
  · simp only [fetch, husable, Bool.false_eq_true, if_false, pure_bind]
    rfl

/-- **What is sent is what was looked at.** A statement that is refused is not posted. Any
other one is posted once, without white space and semicolons at its ends and with the
clause behind it. Of what is posted no semicolon is left once the insides of literals are
gone. If all literals are closed, the same is left as the guard looked at, without the
semicolons at its end, and the clause behind it; and what was cut off stood outside of
literals. -/
theorem execute_sends_guarded (sql : String) :
    (∀ refusal, refusal? sql.toList = some refusal → ∀ sent,
      (c.execute post.noted sql).run sent = pure (.error (.statement refusal.message), sent)) ∧
    (refusal? sql.toList = none → ∃ statement, statement = body sql.toList ++ answerClause ∧
      (∀ sent, (c.execute post.noted sql).run sent
        = if c.isUsable then
            post (c.request (String.ofList statement)) >>= fun delivery =>
              pure (delivery.body >>= Answer.ofBody, sent ++ [c.request (String.ofList statement)])
          else pure (.error (.connection "not a usable URL"), sent)) ∧
      (c.request (String.ofList statement)).statement = String.ofList statement ∧
      ';' ∉ stripLiterals statement ∧
      (Closed sql.toList →
        stripLiterals statement = dropSemicolons (guarded sql.toList) ++ answerClause ∧
        ∃ lead tail, sql.toList = lead ++ body sql.toList ++ tail ∧
          stripLiterals sql.toList = lead ++ stripLiterals (body sql.toList) ++ tail)) := by
  refine ⟨fun refusal h sent => run_execute_of_refused c post h sent, fun h =>
    ⟨statementChars sql.toList, rfl, fun sent => run_execute_of_passes c post h sent, rfl,
      semicolon_not_mem_statementChars h, fun hclosed =>
        ⟨stripLiterals_statementChars_of_closed hclosed, stripLiterals_eq_append_body hclosed⟩⟩⟩

/-- A statement with a semicolon and a blank at the end of a literal, and with both behind
it, is posted without the latter. -/
theorem execute_sends_guarded_quotedSemicolon :
    (((toUrl "http://localhost").execute (Post.noted fun _ => pure .late)
        " SELECT 'it''s; ' ;\n" : StateT (List Request) Id _).run []).2
        = [(toUrl "http://localhost").request "SELECT 'it''s; '  FORMAT JSONCompact"] ∧
      stripLiterals "SELECT 'it''s; '  FORMAT JSONCompact".toList
        = "SELECT ''  FORMAT JSONCompact".toList := by
  have hpasses : refusal? " SELECT 'it''s; ' ;\n".toList = none := by decide +kernel
  have hclosed : Closed " SELECT 'it''s; ' ;\n".toList := by decide
  have husable : (toUrl "http://localhost").isUsable = true := by decide +kernel
  obtain ⟨statement, hstatement, hrun, -, -, hliterals⟩ :=
    (execute_sends_guarded (m := Id) (toUrl "http://localhost") (fun _ => pure .late)
      " SELECT 'it''s; ' ;\n").2 hpasses
  have htext : statement = "SELECT 'it''s; '  FORMAT JSONCompact".toList :=
    hstatement.trans (by decide +kernel)
  refine ⟨?_, ?_⟩
  · rw [hrun, if_pos husable, htext]
    rfl
  · rw [← htext, (hliterals hclosed).1]
    decide +kernel

end Connection

end Readership

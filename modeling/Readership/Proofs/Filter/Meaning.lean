import Readership.Proofs.Filter.Compilation

/-!
# The meaning of a filter document

What a document asks of a record can be said without compiling it. A node
that is no object asks nothing. An object asks four things together: that all
documents under `and` hold, that one of those under `or` does if there are
any, that none of those under `not` does, and that the record passes the leaf
of the node if it has one – a `field` that is a text, with the first operator
that has a key. `Filter.Meaning` is that reading.

Compiling takes a document apart and puts a predicate together that looks
different: lists are merged, parts that are always true disappear, a list of
one is that one, and a negation of a negation is nothing. The meaning stays.
Whatever a document compiles to, once checked, selects exactly the records
that the document means, and so the laws of *and*, *or* and *not* hold of
documents although the two sides of a law need not compile to the same
predicate.
-/

namespace Readership.Filter

open Outcome Predicate

/-- **The first operator of a node** and its literal: the operators before it
have no key among the members. -/
def IsFirstOperator (members : Members) (op : Operator) (literal : Json) : Prop :=
  ∃ before after, Operator.all = before ++ op :: after
    ∧ members.lookup op.key = some literal ∧ ∀ o ∈ before, members.lookup o.key = none

example : Operator.all.map Operator.key
    = ["eq", "ne", "gt", "gte", "lt", "lte", "in", "contains"] := rfl

/-- A document under a logical key is smaller than the node. -/
theorem sizeOf_lt_of_lookup {members : Members} {key : String} {docs : List Json} {d : Json}
    (h : members.lookup key = some (.arr docs)) (hd : d ∈ docs) :
    sizeOf d < sizeOf (Json.obj members) := by
  have hmem : (key, Json.arr docs) ∈ members := by
    obtain ⟨_, _, rfl, _⟩ := List.lookup_eq_some_iff.mp h
    simp
  have hm := List.sizeOf_lt_of_mem hmem
  have hdocs := List.sizeOf_lt_of_mem hd
  simp only [Prod.mk.sizeOf_spec, Json.arr.sizeOf_spec, Json.obj.sizeOf_spec] at hm ⊢
  omega

/-- **What a document asks of a record.** -/
def Meaning (r : ViewRecord) : Json → Prop
  | .obj members =>
    (∀ docs, members.lookup "and" = some (.arr docs) → ∀ d ∈ docs, Meaning r d)
      ∧ (∀ docs, members.lookup "or" = some (.arr docs) → docs ≠ [] →
          ∃ d, ∃ _ : d ∈ docs, Meaning r d)
      ∧ (∀ docs, members.lookup "not" = some (.arr docs) → ∀ d ∈ docs, ¬ Meaning r d)
      ∧ (∀ path op literal, members.lookup "field" = some (.str path) →
          IsFirstOperator members op literal → Condition.passes r ⟨path, op, literal⟩ = true)
  | _ => True
termination_by doc => sizeOf doc
decreasing_by
  all_goals exact sizeOf_lt_of_lookup ‹_› ‹_›

/-- Searching for an operator finds the first that has a key. -/
theorem operatorOf?_eq_some_iff {members : Members} {op : Operator} {literal : Json} :
    operatorOf? members = some (op, literal) ↔ IsFirstOperator members op literal := by
  rw [operatorOf?, List.findSome?_eq_some_iff]
  constructor
  · rintro ⟨before, o, after, hall, hfound, hnone⟩
    obtain ⟨value, hvalue, heq⟩ := Option.map_eq_some_iff.mp hfound
    cases heq
    exact ⟨before, after, hall, hvalue, fun o ho => Option.map_eq_none_iff.mp (hnone o ho)⟩
  · rintro ⟨before, after, hall, hvalue, hnone⟩
    exact ⟨before, op, after, hall, by rw [hvalue, Option.map_some],
      fun o ho => Option.map_eq_none_iff.mpr (hnone o ho)⟩

/-- The leaf of a node is its `field` with its first operator. -/
theorem mem_leaf?_iff {members : Members} {c : Condition} :
    c ∈ leaf? members
      ↔ members.lookup "field" = some (.str c.field)
        ∧ IsFirstOperator members c.operator c.value := by
  rw [← operatorOf?_eq_some_iff, leaf?]
  split
  next path op value hfield hop =>
    rw [hfield, hop]
    obtain ⟨path', op', value'⟩ := c
    simp
  next h =>
    simpa using fun hfield hop => h _ _ _ hfield hop

/-- **What a node asks of a record**, clause by clause. -/
theorem meaning_obj (r : ViewRecord) (members : Members) :
    Meaning r (.obj members)
      ↔ (∀ docs ∈ children? members "and", ∀ d ∈ docs, Meaning r d)
        ∧ (∀ docs ∈ children? members "or", docs ≠ [] → ∃ d ∈ docs, Meaning r d)
        ∧ (∀ docs ∈ children? members "not", ∀ d ∈ docs, ¬ Meaning r d)
        ∧ (∀ c ∈ leaf? members, Condition.passes r c = true) := by
  rw [Meaning]
  simp only [mem_children?_iff, mem_leaf?_iff, exists_prop]
  refine and_congr_right fun _ => and_congr_right fun _ => and_congr_right fun _ => ?_
  exact ⟨fun h c hc => h c.field c.operator c.value hc.1 hc.2,
    fun h path op literal hfield hop => h ⟨path, op, literal⟩ ⟨hfield, hop⟩⟩

/-- What is no object asks nothing. -/
theorem meaning_of_obj?_eq_none (r : ViewRecord) {doc : Json} (h : doc.obj? = none) :
    Meaning r doc := by
  cases doc with
  | obj members => simp [Json.obj?] at h
  | _ => simp [Meaning]

/-! ## Compiling keeps the meaning -/

/-- A predicate that says of a record what a document asks of it. -/
def Says (r : ViewRecord) (doc : Json) (p : Predicate) : Prop :=
  p.IsNormal ∧ (p.truth (Condition.passes r) = true ↔ Meaning r doc)

section Children

variable {r : ViewRecord} {docs : List Json} {nodes : List Compiled}
variable (h : List.Forall₂ (fun d c => Says r d c.predicate) docs nodes)
include h

/-- All children are true where all documents hold. -/
theorem all_predicates_iff :
    (Parts.predicates nodes).all (truth (Condition.passes r)) = true
      ↔ ∀ d ∈ docs, Meaning r d := by
  induction h with
  | nil => simp [Parts.predicates]
  | cons hd _ ih =>
    rw [Parts.predicates, List.map_cons, List.all_cons, Bool.and_eq_true, hd.2]
    exact (and_congr_right fun _ => ih).trans List.forall_mem_cons.symm

/-- One child is true where one document holds. -/
theorem any_predicates_iff :
    (Parts.predicates nodes).any (truth (Condition.passes r)) = true
      ↔ ∃ d ∈ docs, Meaning r d := by
  induction h with
  | nil => simp [Parts.predicates]
  | cons hd _ ih =>
    rw [Parts.predicates, List.map_cons, List.any_cons, Bool.or_eq_true, hd.2,
      List.exists_mem_cons_iff]
    exact or_congr_right ih

/-- **The disjunction of children** is true where one of the documents holds;
there has to be one, since a disjunction of nothing is true. -/
theorem truth_disj_predicates_iff (hne : docs ≠ []) :
    truth (Condition.passes r) (disj (Parts.predicates nodes)) = true
      ↔ ∃ d ∈ docs, Meaning r d := by
  rw [← any_predicates_iff h]
  cases h with
  | nil => exact absurd rfl hne
  | @cons d c docs nodes hd _ =>
    show truth _ (disj (c.predicate :: Parts.predicates nodes)) = true ↔ _
    rw [hd.1.truth_disj_cons]
    rfl

/-- **A list under `or`** says that one of its documents holds, and an empty
one says nothing. -/
theorem truth_anyOf_iff :
    truth (Condition.passes r) (disj (Parts.predicates nodes)) = true
      ↔ (docs ≠ [] → ∃ d ∈ docs, Meaning r d) := by
  by_cases hne : docs = []
  · subst hne
    cases h
    simp [Parts.predicates, disj]
  · rw [truth_disj_predicates_iff h hne]
    exact ⟨fun hex _ => hex, fun hex => hex hne⟩

/-- **A list under `not`** says that none of its documents holds. -/
theorem truth_noneOf_iff :
    (∀ p ∈ Parts.noneHolds nodes, p.truth (Condition.passes r) = true)
      ↔ ∀ d ∈ docs, ¬ Meaning r d := by
  by_cases hne : docs = []
  · subst hne
    cases h
    simp [Parts.noneHolds]
  · have hnodes : nodes.isEmpty = false := by
      rw [List.isEmpty_eq_false_iff, ← List.length_pos_iff, ← h.length_eq, List.length_pos_iff]
      exact hne
    rw [Parts.noneHolds, hnodes, if_neg Bool.false_ne_true]
    simp only [Option.mem_some_iff, forall_eq', truth_negate, Bool.not_eq_true']
    rw [Bool.eq_false_iff, ne_eq, truth_disj_predicates_iff h hne]
    simp only [not_exists, not_and]

end Children

/-- **The predicate of a node** is true where each of its parts is. -/
theorem truth_parts_iff (test : Condition → Bool) (parts : Parts) (leaf : Option Condition) :
    (parts.predicate leaf).truth test = true
      ↔ (∀ nodes ∈ parts.allOf, (Parts.predicates nodes).all (truth test) = true)
        ∧ (∀ nodes ∈ parts.anyOf, truth test (disj (Parts.predicates nodes)) = true)
        ∧ (∀ nodes ∈ parts.noneOf, ∀ p ∈ Parts.noneHolds nodes, p.truth test = true)
        ∧ (∀ c ∈ leaf, test c = true) := by
  rw [Parts.predicate, truth_conj]
  obtain ⟨allOf, anyOf, noneOf⟩ := parts
  cases allOf <;> cases anyOf <;> cases noneOf <;> cases leaf <;>
    simp [truth_conj]

/-- **Compiling keeps the meaning**: the predicate of a document is true of a
record exactly where the document holds of it. -/
theorem says_of_compileNode (r : ViewRecord) {levels : Nat} {doc : Json} {c : Compiled}
    (h : compileNode levels doc = .ok c) : Says r doc c.predicate := by
  refine compileNode_induction (R := fun doc c => Says r doc c.predicate) ?_ ?_ h
  · intro doc hdoc
    exact ⟨.all, iff_of_true (truth_all _) (meaning_of_obj?_eq_none r hdoc)⟩
  · intro members parts hall hany hnone
    refine ⟨?_, ?_⟩
    · exact isNormal_predicate (children? members) (hall.imp fun _ _ => And.left)
        (hany.imp fun _ _ => And.left) (hnone.imp fun _ _ => And.left) _
    · rw [truth_parts_iff, meaning_obj]
      exact and_congr (hall.forall_iff all_predicates_iff)
        (and_congr (hany.forall_iff truth_anyOf_iff)
          (and_congr (hnone.forall_iff truth_noneOf_iff) Iff.rfl))

/-! ## Documents as selections -/

/-- **The selection that a document asks for**: what it compiles to, checked. -/
def select (document : Option Json) : Except Fault Selection := do
  let compiled ← compile document
  compiled.predicate.check

/-- What a document asks of a record; no document asks nothing. -/
def MeaningOf (r : ViewRecord) : Option Json → Prop
  | some doc => Meaning r doc
  | none => True

/-- The document that all of some documents make. -/
def allOf (docs : List Json) : Json := .obj [("and", .arr docs)]

/-- The document that one of some documents makes. -/
def anyOf (docs : List Json) : Json := .obj [("or", .arr docs)]

/-- The document that none of some documents makes. -/
def noneOf (docs : List Json) : Json := .obj [("not", .arr docs)]

variable (r : ViewRecord)

@[simp] theorem meaning_allOf (docs : List Json) :
    Meaning r (allOf docs) ↔ ∀ d ∈ docs, Meaning r d := by
  simp [allOf, meaning_obj, children?, leaf?, List.lookup_cons]

@[simp] theorem meaning_anyOf (docs : List Json) :
    Meaning r (anyOf docs) ↔ (docs ≠ [] → ∃ d ∈ docs, Meaning r d) := by
  simp [anyOf, meaning_obj, children?, leaf?, List.lookup_cons]

@[simp] theorem meaning_noneOf (docs : List Json) :
    Meaning r (noneOf docs) ↔ ∀ d ∈ docs, ¬ Meaning r d := by
  simp [noneOf, meaning_obj, children?, leaf?, List.lookup_cons]

/-- What a document selects is what its root node compiles to; that the
document null is passed over makes no difference. -/
theorem select_some (doc : Json) :
    select (some doc)
      = compileNode (maxFilterDepth + 1) doc >>= fun c => c.predicate.check := by
  cases doc <;> rfl

/-- A selected record is one that the document means. -/
theorem holds_iff_of_select {document : Option Json} {s : Selection}
    (h : select document = .ok s) : s.holds r = true ↔ MeaningOf r document := by
  cases document with
  | none =>
    have hs : s = .all := (Except.ok.inj ((check_all).symm.trans h)).symm
    rw [hs, Selection.holds_all]
    exact iff_of_true rfl trivial
  | some doc =>
    obtain ⟨c, hc, hs⟩ := bind_eq_ok.mp (select_some doc ▸ h)
    rw [holds_of_check r hs]
    exact (says_of_compileNode r hc).2

/-- Two documents that ask the same of a record select it together. -/
theorem holds_eq_of_meaning_iff {d e : Json} {s t : Selection} (hs : select (some d) = .ok s)
    (ht : select (some e) = .ok t) (h : Meaning r d ↔ Meaning r e) : s.holds r = t.holds r :=
  Bool.eq_iff_iff.mpr ((holds_iff_of_select r hs).trans (h.trans (holds_iff_of_select r ht).symm))

/-- **The part of a negated document is a document**: where the negation can be
compiled and checked, so can what it negates. -/
theorem exists_select_of_noneOf {doc : Json} {s : Selection}
    (h : select (some (noneOf [doc])) = .ok s) : ∃ t, select (some doc) = .ok t := by
  obtain ⟨c, hc, hs⟩ := bind_eq_ok.mp (select_some _ ▸ h)
  obtain ⟨⟨allOf, anyOf, nodes⟩, -, -, hnone, rfl⟩ := compileNode_obj_eq_ok.mp hc
  obtain ⟨inner, hinner, hnodes⟩ : ∃ inner, compileNode maxFilterDepth doc = .ok inner
      ∧ nodes = some [inner] := by
    cases compileList_eq_ok.mp hnone with
    | some hdocs =>
      cases hdocs with
      | cons hdoc hrest =>
        cases hrest
        exact ⟨_, hdoc, rfl⟩
  -- the conditions of the document are among those of its negation
  have hconditions := (check_eq_ok_iff _).mp ⟨s, hs⟩
  rw [conditions_predicate, hnodes] at hconditions
  obtain ⟨t, ht⟩ := (check_eq_ok_iff inner.predicate).mpr fun c hc =>
    hconditions c (by simp [conditionsIn, hc])
  exact ⟨t, select_some doc ▸ bind_eq_ok.mpr ⟨inner, compileNode_mono hinner, ht⟩⟩

/-- **Documents select what they mean.** Whatever a document compiles to, once
it has been checked, selects exactly the records of which the document holds.
So a document under `not` selects the complement, and *not*, *and* and *or*
obey the laws of De Morgan, although compiling rewrites all of them. -/
theorem select_holds_iff_meaning :
    (∀ document s, select document = .ok s →
      ∀ r : ViewRecord, s.holds r = true ↔ MeaningOf r document)
    ∧ (∀ doc s, select (some (noneOf [doc])) = .ok s →
      ∃ t, select (some doc) = .ok t ∧ ∀ r : ViewRecord, s.holds r = !t.holds r)
    ∧ (∀ docs s t, select (some (noneOf docs)) = .ok s →
      select (some (allOf (docs.map fun d => noneOf [d]))) = .ok t →
      ∀ r : ViewRecord, s.holds r = t.holds r)
    ∧ (∀ doc docs s t, select (some (noneOf [anyOf (doc :: docs)])) = .ok s →
      select (some (allOf ((doc :: docs).map fun d => noneOf [d]))) = .ok t →
      ∀ r : ViewRecord, s.holds r = t.holds r)
    ∧ (∀ doc docs s t, select (some (noneOf [allOf (doc :: docs)])) = .ok s →
      select (some (anyOf ((doc :: docs).map fun d => noneOf [d]))) = .ok t →
      ∀ r : ViewRecord, s.holds r = t.holds r) := by
  refine ⟨fun document s h r => holds_iff_of_select r h, fun doc s h => ?_,
    fun docs s t hs ht r => holds_eq_of_meaning_iff r hs ht ?_,
    fun doc docs s t hs ht r => holds_eq_of_meaning_iff r hs ht ?_,
    fun doc docs s t hs ht r => holds_eq_of_meaning_iff r hs ht ?_⟩
  · obtain ⟨t, ht⟩ := exists_select_of_noneOf h
    refine ⟨t, ht, fun r => ?_⟩
    have hdoc : t.holds r = true ↔ Meaning r doc := holds_iff_of_select r ht
    have hnot := (holds_iff_of_select r h).trans (meaning_noneOf r [doc])
    rw [List.forall_mem_singleton, ← hdoc] at hnot
    rw [Bool.eq_iff_iff, hnot, Bool.not_eq_true', Bool.not_eq_true]
  · simp
  · simp
  · have hmap (ds : List Json) : (∃ d ∈ ds.map fun d => noneOf [d], Meaning r d)
        ↔ ¬ ∀ d ∈ ds, Meaning r d := by simp
    rw [meaning_noneOf, List.forall_mem_singleton, meaning_allOf, meaning_anyOf, hmap]
    exact ⟨fun h _ => h, fun h => h (List.cons_ne_nil _ _)⟩

/-- A view of blog seven by a known viewer. -/
def seenByKnownViewer : ViewRecord
  | .blogId => .int 7
  | .viewerUser => .text "u1"
  | _ => .null

/-- The document "blog seven". -/
def aboutBlogSeven : Json := .obj [("field", .str "blog"), ("eq", .ofInt 7)]

/-- The document "an anonymous view", with a list under `or` that says
nothing. -/
def aboutAnonymous : Json :=
  .obj [("field", .str "viewer_user"), ("eq", .null), ("or", .arr [])]

/-- That not both documents hold is meant by the record, and selected in either
of the two ways to write it. -/
theorem select_holds_iff_meaning_notBoth :
    ∃ s t, select (some (noneOf [allOf [aboutBlogSeven, aboutAnonymous]])) = .ok s
      ∧ select (some (anyOf [noneOf [aboutBlogSeven], noneOf [aboutAnonymous]])) = .ok t
      ∧ MeaningOf seenByKnownViewer (some (noneOf [allOf [aboutBlogSeven, aboutAnonymous]]))
      ∧ s.holds seenByKnownViewer = t.holds seenByKnownViewer :=
  have hs : select (some (noneOf [allOf [aboutBlogSeven, aboutAnonymous]]))
      = .ok (.not (.and [.criterion ⟨.blogId, .eq (.int 7)⟩,
        .criterion ⟨.viewerUser, .eq .null⟩])) := by rfl
  have ht : select (some (anyOf [noneOf [aboutBlogSeven], noneOf [aboutAnonymous]]))
      = .ok (.or [.not (.criterion ⟨.blogId, .eq (.int 7)⟩),
        .not (.criterion ⟨.viewerUser, .eq .null⟩)]) := by rfl
  ⟨_, _, hs, ht, (select_holds_iff_meaning.1 _ _ hs seenByKnownViewer).mp (by decide),
    select_holds_iff_meaning.2.2.2.2 _ [aboutAnonymous] _ _ hs ht seenByKnownViewer⟩

end Readership.Filter

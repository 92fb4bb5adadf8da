import Readership.Proofs.Filter.Compilation

/-!
# How deep a document may be

Compiling has one bound, the number of levels, and it does two things. It decides alone
whether there is a result: a document is refused where one of its nodes lies below the last
level, whatever that node is and whatever stands beside it (`Filter.exists_compileNode_iff`).
And it keeps what compiling gives low. A level of a document makes at most three of a
predicate – a conjunction over a negation over a disjunction – because the constructors take
in what has their own shape, and the last level makes one (`Filter.height_of_compileNode`).

Checking keeps the height. So everything that goes down a predicate or a selection, as
checking, holding and writing in SQL do, goes no deeper than that, however wide and however
deep the documents are (`Filter.compile_bounded`).
-/

namespace Readership

/-! ## Height -/

namespace Predicate

mutual

/-- **The height of a predicate**: the number of predicates on the longest way down. -/
def height : Predicate → Nat
  | all => 1
  | leaf _ => 1
  | and parts => tallest parts + 1
  | or parts => tallest parts + 1
  | not part => height part + 1

/-- The height of the highest of several predicates. -/
def tallest : List Predicate → Nat
  | [] => 0
  | p :: rest => max (height p) (tallest rest)

end

@[simp] theorem height_all : height all = 1 := by simp [height]

@[simp] theorem height_leaf (c : Condition) : height (leaf c) = 1 := by simp [height]

@[simp] theorem height_and (parts : List Predicate) : height (and parts) = tallest parts + 1 := by
  simp [height]

@[simp] theorem height_or (parts : List Predicate) : height (or parts) = tallest parts + 1 := by
  simp [height]

@[simp] theorem height_not (part : Predicate) : height (not part) = height part + 1 := by
  simp [height]

/-- Several predicates are as low as each of them. -/
theorem tallest_le_iff {parts : List Predicate} {n : Nat} :
    tallest parts ≤ n ↔ ∀ p ∈ parts, p.height ≤ n := by
  induction parts with
  | nil => simp [tallest]
  | cons p rest ih => rw [tallest, Nat.max_le, ih, List.forall_mem_cons]

/-- What a predicate adds to a conjunction is not higher than the predicate. -/
theorem height_le_of_mem_conjuncts {p q : Predicate} (h : q ∈ p.conjuncts) :
    q.height ≤ p.height := by
  cases p with
  | all => cases h
  | and parts =>
    rw [height_and]
    exact Nat.le_succ_of_le (tallest_le_iff.mp (Nat.le_refl _) q h)
  | leaf c => exact Nat.le_of_eq (congrArg height (List.mem_singleton.mp h))
  | or parts => exact Nat.le_of_eq (congrArg height (List.mem_singleton.mp h))
  | not part => exact Nat.le_of_eq (congrArg height (List.mem_singleton.mp h))

/-- What a predicate adds to a disjunction is not higher than the predicate. -/
theorem height_le_of_mem_disjuncts {p q : Predicate} (h : q ∈ p.disjuncts) :
    q.height ≤ p.height := by
  cases p with
  | or parts =>
    rw [height_or]
    exact Nat.le_succ_of_le (tallest_le_iff.mp (Nat.le_refl _) q h)
  | all => exact Nat.le_of_eq (congrArg height (List.mem_singleton.mp h))
  | leaf c => exact Nat.le_of_eq (congrArg height (List.mem_singleton.mp h))
  | and parts => exact Nat.le_of_eq (congrArg height (List.mem_singleton.mp h))
  | not part => exact Nat.le_of_eq (congrArg height (List.mem_singleton.mp h))

variable {parts : List Predicate} {n : Nat}

/-- **A conjunction is one higher than its parts**, at most. -/
theorem height_conj_le (h : ∀ p ∈ parts, p.height ≤ n) : (conj parts).height ≤ n + 1 := by
  have hflat : ∀ q ∈ parts.flatMap conjuncts, q.height ≤ n := by
    intro q hq
    obtain ⟨p, hp, hqp⟩ := List.mem_flatMap.mp hq
    exact Nat.le_trans (height_le_of_mem_conjuncts hqp) (h p hp)
  rw [conj]
  split
  next => simp
  next p hone => exact Nat.le_succ_of_le (hflat p (hone ▸ List.mem_singleton_self p))
  next =>
    rw [height_and]
    exact Nat.succ_le_succ (tallest_le_iff.mpr hflat)

/-- **A disjunction is one higher than its parts**, at most. -/
theorem height_disj_le (h : ∀ p ∈ parts, p.height ≤ n) : (disj parts).height ≤ n + 1 := by
  have hflat : ∀ q ∈ parts.flatMap disjuncts, q.height ≤ n := by
    intro q hq
    obtain ⟨p, hp, hqp⟩ := List.mem_flatMap.mp hq
    exact Nat.le_trans (height_le_of_mem_disjuncts hqp) (h p hp)
  rw [disj]
  split
  next => simp
  next p hone => exact Nat.le_succ_of_le (hflat p (hone ▸ List.mem_singleton_self p))
  next =>
    rw [height_or]
    exact Nat.succ_le_succ (tallest_le_iff.mpr hflat)

/-- **A negation is one higher than what it negates**, at most. -/
theorem height_negate_le (p : Predicate) : p.negate.height ≤ p.height + 1 := by
  cases p with
  | not part =>
    rw [height_not]
    exact Nat.le_add_right part.height 2
  | _ => exact Nat.le_of_eq (height_not _)

end Predicate

namespace Selection

mutual

/-- The height of a selection. -/
def height : Selection → Nat
  | all => 1
  | criterion _ => 1
  | and parts => tallest parts + 1
  | or parts => tallest parts + 1
  | not part => height part + 1

/-- The height of the highest of several selections. -/
def tallest : List Selection → Nat
  | [] => 0
  | s :: rest => max (height s) (tallest rest)

end

@[simp] theorem height_all : height all = 1 := by simp [height]

@[simp] theorem height_criterion (c : Criterion) : height (criterion c) = 1 := by simp [height]

@[simp] theorem height_and (parts : List Selection) : height (and parts) = tallest parts + 1 := by
  simp [height]

@[simp] theorem height_or (parts : List Selection) : height (or parts) = tallest parts + 1 := by
  simp [height]

@[simp] theorem height_not (part : Selection) : height (not part) = height part + 1 := by
  simp [height]

end Selection

namespace Predicate

open Outcome

/-- Predicates that are checked one after the other give selections as high as they are. -/
theorem tallest_of_checkAll {parts : List Predicate} {ss : List Selection}
    (h : checkAll parts = .ok ss)
    (ih : ∀ p ∈ parts, ∀ {s : Selection}, p.check = .ok s → s.height = p.height) :
    Selection.tallest ss = tallest parts := by
  rw [checkAll_eq_mapM, mapM_eq_ok] at h
  induction h with
  | nil => rfl
  | @cons p s parts ss hp _ ihrest =>
    rw [Selection.tallest, tallest, ih p List.mem_cons_self hp,
      ihrest fun q hq => ih q (List.mem_cons_of_mem p hq)]

/-- **Checking keeps the height.** -/
theorem height_of_check {p : Predicate} {s : Selection} (h : p.check = .ok s) :
    s.height = p.height := by
  induction p using inductionOnParts generalizing s with
  | all =>
    rw [check_all] at h
    cases h
    rw [Selection.height_all, height_all]
  | leaf c =>
    obtain ⟨k, -, rfl⟩ := map_eq_ok.mp (check_leaf c ▸ h)
    rw [Selection.height_criterion, height_leaf]
  | and parts ih =>
    obtain ⟨ss, hss, rfl⟩ := map_eq_ok.mp (check_and parts ▸ h)
    rw [Selection.height_and, height_and, tallest_of_checkAll hss ih]
  | or parts ih =>
    obtain ⟨ss, hss, rfl⟩ := map_eq_ok.mp (check_or parts ▸ h)
    rw [Selection.height_or, height_or, tallest_of_checkAll hss ih]
  | not part ih =>
    obtain ⟨s, hs, rfl⟩ := map_eq_ok.mp (check_not part ▸ h)
    rw [Selection.height_not, height_not, ih hs]

end Predicate

namespace Filter

open Outcome

/-! ## Depth -/

/-- The keys under which the children of a node stand. -/
def logicalKeys : List String :=
  ["and", "or", "not"]

/-- **The nodes of a document**, each with the number of steps from the root to it. A step
leads from an object to an item of a list under one of its logical keys, and what it leads to
may be any value. -/
inductive NodeAt : Json → Nat → Json → Prop where
  | root (doc : Json) : NodeAt doc 0 doc
  | step {members : Members} {key : String} {nodes : List Json} {child node : Json} {depth : Nat}
      (logical : key ∈ logicalKeys) (list : members.lookup key = some (.arr nodes))
      (item : child ∈ nodes) (rest : NodeAt child depth node) :
      NodeAt (.obj members) (depth + 1) node

/-- **A document has so many levels at most.** -/
def FitsIn (levels : Nat) (doc : Json) : Prop :=
  ∀ depth node, NodeAt doc depth node → depth < levels

theorem forall_logicalKeys {P : String → Prop} :
    (∀ key ∈ logicalKeys, P key) ↔ P "and" ∧ P "or" ∧ P "not" := by
  simp [logicalKeys]

/-- The root takes a level. -/
theorem not_fitsIn_zero (doc : Json) : ¬ FitsIn 0 doc := fun h =>
  absurd (h 0 doc (.root doc)) (Nat.not_lt_zero 0)

/-- What is no object takes no other. -/
theorem fitsIn_succ_of_obj?_eq_none {levels : Nat} {doc : Json} (h : doc.obj? = none) :
    FitsIn (levels + 1) doc := by
  intro depth node hnode
  cases hnode with
  | root => exact Nat.succ_pos levels
  | step => exact nomatch h

/-- **An object has one level more than the children** under its logical keys. -/
theorem fitsIn_succ_obj_iff {levels : Nat} {members : Members} :
    FitsIn (levels + 1) (.obj members)
      ↔ ∀ key ∈ logicalKeys, ∀ nodes ∈ children? members key, ∀ child ∈ nodes,
        FitsIn levels child := by
  constructor
  · intro h key hkey nodes hnodes child hchild depth node hnode
    exact Nat.lt_of_succ_lt_succ
      (h (depth + 1) node (.step hkey (mem_children?_iff.mp hnodes) hchild hnode))
  · intro h depth node hnode
    cases hnode with
    | root => exact Nat.succ_pos levels
    | step hkey hlist hchild hrest =>
      exact Nat.succ_lt_succ
        (h _ hkey _ (mem_children?_iff.mpr hlist) _ hchild _ _ hrest)

/-- Children compile where each of them does. -/
theorem exists_compileList_iff {compileChild : Json → Except Fault Compiled}
    {docs : Option (List Json)} :
    (∃ nodes, compileList compileChild docs = .ok nodes)
      ↔ ∀ ds ∈ docs, ∀ d ∈ ds, ∃ c, compileChild d = .ok c := by
  cases docs with
  | none => simp [compileList]
  | some ds =>
    have hmap : (∃ nodes, compileList compileChild (some ds) = .ok nodes)
        ↔ ∃ cs, ds.mapM compileChild = .ok cs := by
      simp only [compileList, map_eq_ok]
      constructor
      · rintro ⟨_, cs, hcs, -⟩
        exact ⟨cs, hcs⟩
      · rintro ⟨cs, hcs⟩
        exact ⟨some cs, cs, hcs, rfl⟩
    simpa only [hmap, Option.mem_some_iff, forall_eq'] using exists_mapM_iff

/-- A node compiles where the lists under its logical keys do. -/
theorem exists_compileNode_obj_iff {levels : Nat} {members : Members} :
    (∃ c, compileNode (levels + 1) (.obj members) = .ok c)
      ↔ ∀ key ∈ logicalKeys,
        ∃ nodes, compileList (compileNode levels) (children? members key) = .ok nodes := by
  simp only [compileNode_obj_eq_ok, forall_logicalKeys]
  constructor
  · rintro ⟨c, parts, hall, hany, hnone, -⟩
    exact ⟨⟨_, hall⟩, ⟨_, hany⟩, ⟨_, hnone⟩⟩
  · rintro ⟨⟨allOf, hall⟩, ⟨anyOf, hany⟩, ⟨noneOf, hnone⟩⟩
    exact ⟨_, ⟨allOf, anyOf, noneOf⟩, hall, hany, hnone, rfl⟩

/-- **A document compiles exactly where it fits in.** -/
theorem exists_compileNode_iff {levels : Nat} {doc : Json} :
    (∃ c, compileNode levels doc = .ok c) ↔ FitsIn levels doc := by
  induction levels generalizing doc with
  | zero => exact iff_of_false (fun ⟨_, h⟩ => nomatch h) (not_fitsIn_zero doc)
  | succ levels ih =>
    cases hdoc : doc.obj? with
    | none =>
      exact iff_of_true ⟨_, compileNode_of_obj?_eq_none hdoc⟩ (fitsIn_succ_of_obj?_eq_none hdoc)
    | some members =>
      obtain rfl := eq_obj_of_obj?_eq_some hdoc
      simp only [exists_compileNode_obj_iff, exists_compileList_iff, ih, fitsIn_succ_obj_iff]

/-! ## The height of what is compiled -/

/-- **A node is at most three higher than its children**: a conjunction over the negation of
a disjunction of them. -/
theorem height_predicate_le {parts : Parts} {n : Nat}
    (hall : ∀ cs ∈ parts.allOf, ∀ c ∈ cs, c.predicate.height ≤ n)
    (hany : ∀ cs ∈ parts.anyOf, ∀ c ∈ cs, c.predicate.height ≤ n)
    (hnone : ∀ cs ∈ parts.noneOf, ∀ c ∈ cs, c.predicate.height ≤ n) (leaf : Option Condition) :
    (parts.predicate leaf).height ≤ n + 3 := by
  obtain ⟨ps, hps, hmade⟩ := exists_predicate_eq_conj parts leaf
  rw [hps]
  refine Predicate.height_conj_le fun p hp => ?_
  obtain ⟨cs, hcs, rfl⟩ | ⟨cs, hcs, rfl⟩ | ⟨cs, hcs, rfl⟩ | ⟨c, rfl⟩ := hmade p hp
  · exact Nat.le_succ_of_le (Predicate.height_conj_le (List.forall_mem_map.mpr (hall cs hcs)))
  · exact Nat.le_succ_of_le (Predicate.height_disj_le (List.forall_mem_map.mpr (hany cs hcs)))
  · exact Nat.le_trans (Predicate.height_negate_le _) (Nat.succ_le_succ
      (Predicate.height_disj_le (List.forall_mem_map.mpr (hnone cs hcs))))
  · rw [Predicate.height_leaf]
    exact Nat.le_add_left 1 (n + 1)

/-- A list that compiles with no level left is empty. -/
theorem compileList_zero_eq_ok {docs : Option (List Json)} {nodes : Option (List Compiled)}
    (h : compileList (compileNode 0) docs = .ok nodes) : nodes = none ∨ nodes = some [] := by
  cases compileList_eq_ok.mp h with
  | none => exact .inl rfl
  | some hall =>
    cases hall with
    | nil => exact .inr rfl
    | cons hd _ => cases hd

/-- **A node without children is its leaf**, if it has one. -/
theorem predicate_of_no_children {parts : Parts}
    (hall : parts.allOf = none ∨ parts.allOf = some [])
    (hany : parts.anyOf = none ∨ parts.anyOf = some [])
    (hnone : parts.noneOf = none ∨ parts.noneOf = some []) (leaf : Option Condition) :
    parts.predicate leaf = (leaf.map Predicate.leaf).getD .all := by
  obtain ⟨allOf, anyOf, noneOf⟩ := parts
  rcases hall with rfl | rfl <;> rcases hany with rfl | rfl <;> rcases hnone with rfl | rfl <;>
    cases leaf <;> rfl

/-- **What a document compiles to is low**: each level adds three at most, and the last one
is a leaf. -/
theorem height_of_compileNode {levels : Nat} {doc : Json} {c : Compiled}
    (h : compileNode (levels + 1) doc = .ok c) : c.predicate.height ≤ 3 * levels + 1 := by
  induction levels generalizing doc c with
  | zero =>
    obtain ⟨-, rfl⟩ | ⟨members, parts, rfl, hall, hany, hnone, rfl⟩ := compileNode_cases h
    · exact Nat.le_of_eq Predicate.height_all
    · rw [predicate_of_no_children (compileList_zero_eq_ok hall) (compileList_zero_eq_ok hany)
        (compileList_zero_eq_ok hnone)]
      cases leaf? members with
      | none => exact Nat.le_of_eq Predicate.height_all
      | some c => exact Nat.le_of_eq (Predicate.height_leaf c)
  | succ levels ih =>
    have hchildren {docs : Option (List Json)} {nodes : Option (List Compiled)}
        (h : compileList (compileNode (levels + 1)) docs = .ok nodes) :
        ∀ cs ∈ nodes, ∀ c ∈ cs, c.predicate.height ≤ 3 * levels + 1 :=
      ChildrenRel.forall_mem ((compileList_eq_ok.mp h).imp fun _ _ => ih)
    obtain ⟨-, rfl⟩ | ⟨members, parts, rfl, hall, hany, hnone, rfl⟩ := compileNode_cases h
    · rw [Predicate.height_all]
      exact Nat.le_add_left 1 _
    · exact height_predicate_le (hchildren hall) (hchildren hany) (hchildren hnone) _

/-! ## Documents -/

/-- A document compiles where it fits in 33 levels; no document takes none. -/
theorem exists_compile_iff (document : Option Json) :
    (∃ c, compile document = .ok c)
      ↔ ∀ root ∈ document, FitsIn (maxFilterDepth + 1) root := by
  unfold compile
  split
  next => exact iff_of_true ⟨_, rfl⟩ fun _ h => nomatch h
  next =>
    refine iff_of_true ⟨_, rfl⟩ fun root hroot => ?_
    cases hroot
    exact fitsIn_succ_of_obj?_eq_none rfl
  next root _ => simpa using exists_compileNode_iff

/-- What compiles is always true or is compiled node by node. -/
theorem compile_cases {document : Option Json} {c : Compiled} (h : compile document = .ok c) :
    c = ⟨.all, []⟩ ∨ ∃ root ∈ document, compileNode (maxFilterDepth + 1) root = .ok c := by
  unfold compile at h
  split at h
  next => exact .inl (Except.ok.inj h).symm
  next => exact .inl (Except.ok.inj h).symm
  next root _ => exact .inr ⟨root, rfl, h⟩

/-- **The bounds of compilation.** A document is refused exactly where one of its nodes is
more than 32 steps from the root. Otherwise it compiles to a predicate in normal form whose
height is at most 97, and so is that of the selection that checking gives. -/
theorem compile_bounded (document : Option Json) :
    ((∃ fault, compile document = .error fault)
      ↔ ∃ root ∈ document, ∃ depth node, NodeAt root depth node ∧ 32 < depth) ∧
    ∀ c, compile document = .ok c → c.predicate.IsNormal ∧ c.predicate.height ≤ 97 ∧
      ∀ s, c.predicate.check = .ok s → s.height ≤ 97 := by
  constructor
  · rw [exists_eq_error_iff, exists_compile_iff]
    simp only [FitsIn, not_forall, Nat.not_lt, exists_prop, maxFilterDepth, Nat.succ_le_iff]
  · intro c hc
    have hlow : c.predicate.IsNormal ∧ c.predicate.height ≤ 97 := by
      obtain rfl | ⟨root, -, hroot⟩ := compile_cases hc
      · exact ⟨.all, by decide⟩
      · exact ⟨isNormal_of_compileNode hroot, height_of_compileNode hroot⟩
    refine ⟨hlow.1, hlow.2, fun s hs => ?_⟩
    rw [Predicate.height_of_check hs]
    exact hlow.2

end Filter

end Readership

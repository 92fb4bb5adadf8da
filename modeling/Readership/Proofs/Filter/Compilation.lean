import Readership.Filter.Document
import Readership.Proofs.Filter.NormalForm

/-!
# What compilation goes through

Compiling a node compiles the children that stand under its logical keys and
puts them together. `Filter.compileNode_obj_eq_ok` says so of one node, and
`Filter.compileNode_induction` of a whole document: a relation between
documents and what they compile to holds throughout if it holds of what is no
object and passes from the children of a node to the node. The bound on the
depth plays no part in the relation. It only decides whether there is a
result, and a result that is there with few levels left is the same with more
(`Filter.compileNode_mono`).
-/

namespace Readership.Filter

open Outcome

/-- The children under a key are the list that stands there. -/
theorem mem_children?_iff {members : Members} {key : String} {docs : List Json} :
    docs ∈ children? members key ↔ members.lookup key = some (.arr docs) := by
  rw [children?]
  split
  next nodes h => simp [h]
  next h => simpa using fun heq => h docs heq

/-- The children under a logical key, related one by one. -/
def ChildrenRel (R : Json → Compiled → Prop) :
    Option (List Json) → Option (List Compiled) → Prop :=
  Option.Rel (List.Forall₂ R)

theorem ChildrenRel.imp {R S : Json → Compiled → Prop} (h : ∀ d c, R d c → S d c)
    {docs : Option (List Json)} {nodes : Option (List Compiled)} (hrel : ChildrenRel R docs nodes) :
    ChildrenRel S docs nodes := by
  cases hrel with
  | none => exact .none
  | some hall => exact .some (hall.imp h)

/-- What related lists say of each other is said under a key. -/
theorem ChildrenRel.forall_iff {R : Json → Compiled → Prop} {P : List Compiled → Prop}
    {Q : List Json → Prop} (h : ∀ {docs nodes}, List.Forall₂ R docs nodes → (P nodes ↔ Q docs))
    {docs : Option (List Json)} {nodes : Option (List Compiled)} (hrel : ChildrenRel R docs nodes) :
    (∀ cs ∈ nodes, P cs) ↔ ∀ ds ∈ docs, Q ds := by
  cases hrel with
  | none => simp
  | some hall => simpa using h hall

/-- Children compile where each of them does. -/
theorem compileList_eq_ok {compileChild : Json → Except Fault Compiled}
    {docs : Option (List Json)} {nodes : Option (List Compiled)} :
    compileList compileChild docs = .ok nodes
      ↔ ChildrenRel (fun d c => compileChild d = .ok c) docs nodes := by
  cases docs with
  | none => cases nodes <;> simp [compileList, ChildrenRel]
  | some docs =>
    rw [compileList, map_eq_ok]
    constructor
    · rintro ⟨cs, hcs, rfl⟩
      exact .some (mapM_eq_ok.mp hcs)
    · intro h
      cases h with
      | some h => exact ⟨_, mapM_eq_ok.mpr h, rfl⟩

/-- **One node.** An object compiles where the children under its three
logical keys do. -/
theorem compileNode_obj_eq_ok {levels : Nat} {members : Members} {c : Compiled} :
    compileNode (levels + 1) (.obj members) = .ok c
      ↔ ∃ parts : Parts,
        compileList (compileNode levels) (children? members "and") = .ok parts.allOf
          ∧ compileList (compileNode levels) (children? members "or") = .ok parts.anyOf
          ∧ compileList (compileNode levels) (children? members "not") = .ok parts.noneOf
          ∧ c = ⟨parts.predicate (leaf? members), parts.ignored members⟩ := by
  simp only [compileNode, bind_eq_ok]
  constructor
  · rintro ⟨allOf, hall, anyOf, hany, noneOf, hnone, hc⟩
    exact ⟨⟨allOf, anyOf, noneOf⟩, hall, hany, hnone, (Except.ok.inj hc).symm⟩
  · rintro ⟨⟨allOf, anyOf, noneOf⟩, hall, hany, hnone, rfl⟩
    exact ⟨allOf, hall, anyOf, hany, noneOf, hnone, rfl⟩

theorem eq_obj_of_obj?_eq_some {doc : Json} {members : Members} (h : doc.obj? = some members) :
    doc = .obj members := by
  cases doc with
  | obj _ => rw [Option.some.inj h]
  | _ => cases h

/-- What is no object compiles to what is always true. -/
theorem compileNode_of_obj?_eq_none {levels : Nat} {doc : Json} (h : doc.obj? = none) :
    compileNode (levels + 1) doc = .ok ⟨.all, [.node doc]⟩ := by
  cases doc with
  | obj members => simp [Json.obj?] at h
  | _ => rfl

/-- **What compiling a node goes through**: either the node is no object, or the children
under its logical keys compile with a level less. -/
theorem compileNode_cases {levels : Nat} {doc : Json} {c : Compiled}
    (h : compileNode (levels + 1) doc = .ok c) :
    (doc.obj? = none ∧ c = ⟨.all, [.node doc]⟩) ∨
      ∃ (members : Members) (parts : Parts), doc = .obj members
        ∧ compileList (compileNode levels) (children? members "and") = .ok parts.allOf
        ∧ compileList (compileNode levels) (children? members "or") = .ok parts.anyOf
        ∧ compileList (compileNode levels) (children? members "not") = .ok parts.noneOf
        ∧ c = ⟨parts.predicate (leaf? members), parts.ignored members⟩ := by
  cases hdoc : doc.obj? with
  | none =>
    rw [compileNode_of_obj?_eq_none hdoc] at h
    cases h
    exact .inl ⟨rfl, rfl⟩
  | some members =>
    obtain rfl := eq_obj_of_obj?_eq_some hdoc
    obtain ⟨parts, hparts⟩ := compileNode_obj_eq_ok.mp h
    exact .inr ⟨members, parts, rfl, hparts⟩

/-- **Induction over a compiled document.** The relation has to hold of what
is no object, and of a node if it holds of the children under its keys. -/
theorem compileNode_induction {R : Json → Compiled → Prop}
    (value : ∀ doc : Json, doc.obj? = none → R doc ⟨.all, [.node doc]⟩)
    (node : ∀ (members : Members) (parts : Parts),
      ChildrenRel R (children? members "and") parts.allOf →
      ChildrenRel R (children? members "or") parts.anyOf →
      ChildrenRel R (children? members "not") parts.noneOf →
      R (.obj members) ⟨parts.predicate (leaf? members), parts.ignored members⟩)
    {levels : Nat} {doc : Json} {c : Compiled} (h : compileNode levels doc = .ok c) :
    R doc c := by
  induction levels generalizing doc c with
  | zero => cases h
  | succ levels ih =>
    have hchildren {docs : Option (List Json)} {nodes : Option (List Compiled)}
        (h : compileList (compileNode levels) docs = .ok nodes) : ChildrenRel R docs nodes :=
      (compileList_eq_ok.mp h).imp fun _ _ => ih
    obtain ⟨hdoc, rfl⟩ | ⟨members, parts, rfl, hall, hany, hnone, rfl⟩ := compileNode_cases h
    · exact value doc hdoc
    · exact node members parts (hchildren hall) (hchildren hany) (hchildren hnone)

/-- **More levels change nothing** about a document that compiles. -/
theorem compileNode_mono {levels : Nat} {doc : Json} {c : Compiled}
    (h : compileNode levels doc = .ok c) : compileNode (levels + 1) doc = .ok c := by
  induction levels generalizing doc c with
  | zero => cases h
  | succ levels ih =>
    have hchildren {docs : Option (List Json)} {nodes : Option (List Compiled)}
        (h : compileList (compileNode levels) docs = .ok nodes) :
        compileList (compileNode (levels + 1)) docs = .ok nodes :=
      compileList_eq_ok.mpr ((compileList_eq_ok.mp h).imp fun _ _ => ih)
    obtain ⟨hdoc, rfl⟩ | ⟨members, parts, rfl, hall, hany, hnone, rfl⟩ := compileNode_cases h
    · exact compileNode_of_obj?_eq_none hdoc
    · exact compileNode_obj_eq_ok.mpr
        ⟨parts, hchildren hall, hchildren hany, hchildren hnone, rfl⟩

/-- **A document other than null** is compiled as a node. -/
theorem compile_some {root : Json} (h : root ≠ .null) :
    compile (some root) = compileNode (maxFilterDepth + 1) root := by
  rw [compile]
  simpa using h

/-- The conditions of children, child by child. -/
def conditionsIn (nodes : Option (List Compiled)) : List Condition :=
  (nodes.getD []).flatMap fun c => c.predicate.conditions

/-- That none of the children holds has the conditions of the children. -/
theorem conditions_noneHolds (nodes : List Compiled) :
    (Parts.noneHolds nodes).toList.flatMap Predicate.conditions = conditionsIn (some nodes) := by
  rw [Parts.noneHolds]
  cases nodes with
  | nil => rfl
  | cons c rest =>
    simp [conditionsIn, Predicate.conditions_negate, Predicate.conditions_disj,
      Parts.predicates, List.flatMap_map]

/-- **The conditions of a node**: those of the documents under `and`, `or` and
`not`, then its own leaf. None is lost. -/
theorem conditions_predicate (parts : Parts) (leaf : Option Condition) :
    (parts.predicate leaf).conditions
      = conditionsIn parts.allOf ++ conditionsIn parts.anyOf ++ conditionsIn parts.noneOf
        ++ leaf.toList := by
  have hnone : (parts.noneOf.bind Parts.noneHolds).toList.flatMap Predicate.conditions
      = conditionsIn parts.noneOf := by
    cases parts.noneOf with
    | none => rfl
    | some nodes => exact conditions_noneHolds nodes
  rw [Parts.predicate, Predicate.conditions_conj]
  simp only [List.flatMap_append, hnone]
  obtain ⟨allOf, anyOf, noneOf⟩ := parts
  cases allOf <;> cases anyOf <;> cases leaf <;>
    simp [conditionsIn, Predicate.conditions_conj, Predicate.conditions_disj,
      Parts.predicates, List.flatMap_map]

/-- What holds of all that the children compile to, one by one. -/
theorem ChildrenRel.forall_mem {P : Compiled → Prop} {docs : Option (List Json)}
    {nodes : Option (List Compiled)} (h : ChildrenRel (fun _ c => P c) docs nodes) :
    ∀ cs ∈ nodes, ∀ c ∈ cs, P c := by
  have hlist {docs : List Json} {nodes : List Compiled}
      (h : List.Forall₂ (fun _ c => P c) docs nodes) : ∀ c ∈ nodes, P c := by
    induction h with
    | nil => exact fun c hc => absurd hc List.not_mem_nil
    | cons hd _ ih => exact List.forall_mem_cons.mpr ⟨hd, ih⟩
  cases h with
  | none => exact fun cs hcs => absurd hcs (Option.not_mem_none cs)
  | some hall => exact fun cs hcs => Option.some.inj hcs ▸ hlist hall

/-- **What the predicate of a node is made of**: a conjunction of what the lists of its
children say, and of its leaf. -/
theorem exists_predicate_eq_conj (parts : Parts) (leaf : Option Condition) :
    ∃ ps, parts.predicate leaf = Predicate.conj ps ∧ ∀ p ∈ ps,
      (∃ cs ∈ parts.allOf, p = Predicate.conj (Parts.predicates cs))
        ∨ (∃ cs ∈ parts.anyOf, p = Predicate.disj (Parts.predicates cs))
        ∨ (∃ cs ∈ parts.noneOf, p = (Predicate.disj (Parts.predicates cs)).negate)
        ∨ ∃ c, p = .leaf c := by
  refine ⟨_, rfl, fun p hp => ?_⟩
  simp only [List.mem_append, Option.mem_toList, Option.map_eq_some_iff,
    Option.bind_eq_some_iff] at hp
  obtain ((⟨cs, hcs, rfl⟩ | ⟨cs, hcs, rfl⟩) | ⟨cs, hcs, hp⟩) | ⟨c, _, rfl⟩ := hp
  · exact .inl ⟨cs, hcs, rfl⟩
  · exact .inr (.inl ⟨cs, hcs, rfl⟩)
  · rw [Parts.noneHolds] at hp
    split at hp
    next => cases hp
    next =>
      cases hp
      exact .inr (.inr (.inl ⟨cs, hcs, rfl⟩))
  · exact .inr (.inr (.inr ⟨c, rfl⟩))

/-- **A node compiles to a predicate in normal form** if its children do. -/
theorem isNormal_predicate (docs : String → Option (List Json)) {parts : Parts}
    (hall : ChildrenRel (fun _ c => c.predicate.IsNormal) (docs "and") parts.allOf)
    (hany : ChildrenRel (fun _ c => c.predicate.IsNormal) (docs "or") parts.anyOf)
    (hnone : ChildrenRel (fun _ c => c.predicate.IsNormal) (docs "not") parts.noneOf)
    (leaf : Option Condition) : (parts.predicate leaf).IsNormal := by
  obtain ⟨ps, hps, hmade⟩ := exists_predicate_eq_conj parts leaf
  rw [hps]
  refine Predicate.IsNormal.conj fun p hp => ?_
  obtain ⟨cs, hcs, rfl⟩ | ⟨cs, hcs, rfl⟩ | ⟨cs, hcs, rfl⟩ | ⟨c, rfl⟩ := hmade p hp
  · exact .conj (List.forall_mem_map.mpr (hall.forall_mem cs hcs))
  · exact .disj (List.forall_mem_map.mpr (hany.forall_mem cs hcs))
  · exact .negate (.disj (List.forall_mem_map.mpr (hnone.forall_mem cs hcs)))
  · exact .leaf c

/-- **A document compiles to a predicate in normal form.** -/
theorem isNormal_of_compileNode {levels : Nat} {doc : Json} {c : Compiled}
    (h : compileNode levels doc = .ok c) : c.predicate.IsNormal :=
  compileNode_induction (R := fun _ c => c.predicate.IsNormal) (fun _ _ => .all)
    (fun members _ hall hany hnone => isNormal_predicate (children? members) hall hany hnone _) h

end Readership.Filter

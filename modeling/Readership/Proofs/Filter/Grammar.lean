import Mathlib.Algebra.Order.Group.Multiset
import Mathlib.Tactic.Abel
import Readership.Proofs.Filter.Depth
import Readership.Proofs.Filter.Leaves
import Readership.Proofs.Json.Keys

/-!
# The grammar of filter documents

Compilation takes what it understands and reports the rest. It looks at a node in several
ways – for a list under each logical key, for a leaf, and once more over all keys for those
that mean nothing – and each look reports on its own. Here the members of a node are gone
through once, and each member is either in its place or has one flaw
(`Filter.flawOf`); a node that is no object is a flaw itself. As a key stands once in an
object, the looks of compilation come to the same: what they report of a node are its flaws,
each once (`Filter.ignored_perm`).

What is reported of a document are the flaws of all its nodes. So a document is compiled
without a word exactly if it is in the grammar (`Filter.InGrammar`), which does not speak of
reports at all: every node is an object, what stands under its logical keys are lists of such
nodes, and its other keys are none, or a `field` that is a text, with an operator beside it.
-/

namespace Readership.Filter

open Json (Keyed ofKey)

/-! ## Nodes and flaws -/

/-- **The nodes of a document** in the order in which they are met. -/
def nodes : Json → List Json
  | .obj members =>
    .obj members
      :: ((under members "and").attach.flatMap (fun d => nodes d.1)
        ++ (under members "or").attach.flatMap (fun d => nodes d.1)
        ++ (under members "not").attach.flatMap (fun d => nodes d.1))
  | doc => [doc]
termination_by doc => sizeOf doc
decreasing_by all_goals exact sizeOf_lt_of_mem_under d.2

/-- The nodes that compilation visits; no document and the document null have none. -/
def nodesOf : Option Json → List Json
  | none | some .null => []
  | some root => nodes root

/-- The keys of members. -/
def keys (members : Members) : List String :=
  members.map Prod.fst

/-- Whether a key is that of an operator. -/
def isOperatorKey (key : String) : Bool :=
  Operator.all.any (·.key == key)

/-- **What is wrong with a member of a node**, if it is not in its place: a logical key
without a list, a `field` that is no text or has no operator beside it, and any other key that
is not that of an operator beside a `field`. -/
def flawOf (members : Members) (m : String × Json) : Option Ignored :=
  if m.1 ∈ logicalKeys then
    match m.2 with
    | .arr _ => none
    | value => some (.logicalKey m.1 value)
  else if m.1 = "field" then
    match m.2 with
    | .str path => if (keys members).any isOperatorKey then none else some (.leaf path)
    | _ => some .fieldName
  else if "field" ∈ keys members ∧ isOperatorKey m.1 then none
  else some (.key m.1)

/-- **The flaws of a node**: one for each member that is not in its place, and one for a node
that is no object. -/
def flaws : Json → List Ignored
  | .obj members => members.filterMap (flawOf members)
  | value => [.node value]

/-! ## The grammar -/

/-- **Members that are a leaf**, and lists under logical keys: a `field` that is a text, one
operator or more, and nothing else. -/
structure IsLeaf (members : Members) : Prop where
  field : "field" ∈ keys members
  operator : ∃ key ∈ keys members, isOperatorKey key = true
  only : ∀ m ∈ members, m.1 ∉ logicalKeys →
    (m.1 = "field" ∧ ∃ path, m.2 = .str path) ∨ isOperatorKey m.1 = true

/-- **The grammar of documents.** -/
inductive InGrammar : Json → Prop where
  | node {members : Members}
      (lists : ∀ m ∈ members, m.1 ∈ logicalKeys → ∃ docs, m.2 = .arr docs)
      (children : ∀ key ∈ logicalKeys, ∀ d ∈ under members key, InGrammar d)
      (rest : (∀ m ∈ members, m.1 ∈ logicalKeys) ∨ IsLeaf members) : InGrammar (.obj members)

theorem nodes_obj (members : Members) :
    nodes (.obj members) = .obj members
      :: ((under members "and").flatMap nodes ++ (under members "or").flatMap nodes
        ++ (under members "not").flatMap nodes) := by
  rw [nodes]
  simp only [List.flatMap_subtype, List.unattach_attach]

theorem nodes_of_obj?_eq_none {doc : Json} (h : doc.obj? = none) : nodes doc = [doc] := by
  cases doc with
  | obj members => simp [Json.obj?] at h
  | _ => simp [nodes]

theorem mem_under_iff {members : Members} {key : String} {d : Json} :
    d ∈ under members key ↔ ∃ docs, members.lookup key = some (.arr docs) ∧ d ∈ docs := by
  rw [under]
  split
  next docs hlookup => simp [hlookup]
  next hlookup => simpa using fun docs heq => absurd heq (hlookup docs)

/-- **Induction over the nodes of a document**: over what is no object, and over an object
from the documents under its logical keys. -/
theorem node_induction {motive : Json → Prop}
    (value : ∀ doc : Json, doc.obj? = none → motive doc)
    (node : ∀ members : Members, (∀ key ∈ logicalKeys, ∀ d ∈ under members key, motive d) →
      motive (.obj members)) (doc : Json) : motive doc := by
  induction doc using nodes.induct with
  | case1 members hall hany hnone =>
    exact node members (forall_logicalKeys.mpr
      ⟨fun d hd => hall ⟨d, hd⟩, fun d hd => hany ⟨d, hd⟩, fun d hd => hnone ⟨d, hd⟩⟩)
  | case2 doc hdoc =>
    cases doc with
    | obj members => exact absurd rfl (hdoc members)
    | _ => exact value _ rfl

/-- The nodes of an object are the object and those of the documents under its logical keys. -/
theorem mem_nodes_obj_iff {members : Members} {node : Json} :
    node ∈ nodes (.obj members) ↔
      node = .obj members ∨ ∃ key ∈ logicalKeys, ∃ d ∈ under members key, node ∈ nodes d := by
  rw [nodes_obj]
  simp [logicalKeys]

/-- **The nodes of a document** are what steps lead to. -/
theorem mem_nodes_iff {doc node : Json} : node ∈ nodes doc ↔ ∃ depth, NodeAt doc depth node := by
  induction doc using node_induction with
  | value doc hdoc =>
    rw [nodes_of_obj?_eq_none hdoc, List.mem_singleton]
    constructor
    · rintro rfl
      exact ⟨0, .root node⟩
    · rintro ⟨depth, hnode⟩
      cases hnode with
      | root => rfl
      | step => exact nomatch hdoc
  | node members ih =>
    rw [mem_nodes_obj_iff]
    constructor
    · rintro (rfl | ⟨key, hkey, d, hd, hnode⟩)
      · exact ⟨0, .root _⟩
      · obtain ⟨depth, hdepth⟩ := (ih key hkey d hd).mp hnode
        obtain ⟨docs, hlist, hitem⟩ := mem_under_iff.mp hd
        exact ⟨depth + 1, .step hkey hlist hitem hdepth⟩
    · rintro ⟨depth, hnode⟩
      cases hnode with
      | root => exact .inl rfl
      | step hkey hlist hitem hrest =>
        have hd := mem_under_iff.mpr ⟨_, hlist, hitem⟩
        exact .inr ⟨_, hkey, _, hd, (ih _ hkey _ hd).mpr ⟨_, hrest⟩⟩

/-! ## What compilation reports -/

/-- A logical key is reported where its member has a flaw. -/
theorem notAList_eq {members : Members} {key : String} (hkey : key ∈ logicalKeys) :
    notAList members key = ofKey (flawOf members) members key := by
  rw [notAList, ofKey]
  rcases members.lookup key with _ | value
  · rfl
  · show _ = (flawOf members (key, value)).toList
    rw [flawOf, if_pos hkey]
    cases value <;> rfl

/-- A key has a value where a member has the key. -/
theorem isSome_lookup_iff {members : Members} {key : String} :
    (members.lookup key).isSome = true ↔ key ∈ keys members := by
  rw [← Option.ne_none_iff_isSome, ne_eq, List.lookup_eq_none_iff, keys, List.mem_map]
  simp only [bne_iff_ne, ne_eq, not_forall, not_not, exists_prop]
  exact exists_congr fun m => and_congr_right fun _ => eq_comm

/-- An operator is found where one of the keys is that of an operator. -/
theorem isSome_operatorOf? (members : Members) :
    (operatorOf? members).isSome = (keys members).any isOperatorKey := by
  rw [Bool.eq_iff_iff, operatorOf?, List.findSome?_isSome_iff]
  simp only [Option.isSome_map, isSome_lookup_iff, List.any_eq_true, isOperatorKey, beq_iff_eq]
  constructor
  · rintro ⟨op, hop, hkey⟩
    exact ⟨op.key, hkey, op, hop, rfl⟩
  · rintro ⟨_, hkey, op, hop, rfl⟩
    exact ⟨op, hop, hkey⟩

/-- A `field` is reported where its member has a flaw. -/
theorem notALeaf_eq (members : Members) :
    notALeaf members = ofKey (flawOf members) members "field" := by
  rw [notALeaf, ofKey]
  rcases members.lookup "field" with _ | value
  · rfl
  · show _ = (flawOf members ("field", value)).toList
    have hfield : "field" ∉ logicalKeys := by decide
    rw [flawOf, if_neg hfield, if_pos rfl, ← isSome_operatorOf?]
    cases value with
    | str path => cases (operatorOf? members).isSome <;> rfl
    | _ => rfl

/-- Any other key is reported where its member has a flaw. -/
theorem unknownKeys_eq (members : Members) :
    unknownKeys members = members.filterMap fun m =>
      if m.1 ∈ ["and", "or", "not", "field"] then none else flawOf members m := by
  refine List.filterMap_congr fun m _ => ?_
  rw [isKnownKey]
  by_cases hkey : m.1 ∈ ["and", "or", "not", "field"]
  · rw [if_pos hkey, List.contains_iff_mem.mpr hkey, Bool.true_or, if_pos rfl]
  · have hlogical : m.1 ∉ logicalKeys := fun h => hkey (List.mem_append_left ["field"] h)
    have hfield : m.1 ≠ "field" := fun h => hkey (by simp [h])
    rw [if_neg hkey, flawOf, if_neg hlogical, if_neg hfield]
    simp only [← isSome_lookup_iff, ← Bool.and_eq_true, isOperatorKey, List.contains_iff_mem,
      Bool.or_eq_true, hkey, false_or]

/-- **What compilation reports of a node** are its flaws, each once. -/
theorem reports_perm {members : Members} (once : (members.map Prod.fst).Nodup) :
    (notAList members "and" ++ notAList members "or" ++ notAList members "not"
        ++ notALeaf members ++ unknownKeys members).Perm (flaws (.obj members)) := by
  rw [flaws]
  have hkeys : ["and", "or", "not", "field"].Nodup := by decide
  have h := Json.perm_filterMap_keys once hkeys (flawOf members)
  rw [← unknownKeys_eq] at h
  simp only [List.flatMap_cons, List.flatMap_nil, List.append_nil] at h
  rw [← notAList_eq (by decide), ← notAList_eq (by decide), ← notAList_eq (by decide),
    ← notALeaf_eq] at h
  simpa only [List.append_assoc] using h.symm

/-- What is reported of the children under a key are the flaws of the nodes there, if of each
child they are. -/
theorem ignoredIn_perm {members : Members} {key : String} {parts : Option (List Compiled)}
    (keyed : ∀ d ∈ under members key, d.Keyed)
    (h : ChildrenRel (fun d c => d.Keyed → c.ignored.Perm ((nodes d).flatMap flaws))
      (children? members key) parts) :
    (Parts.ignoredIn parts).Perm (((under members key).flatMap nodes).flatMap flaws) := by
  have hlist {docs : List Json} {cs : List Compiled}
      (h : List.Forall₂ (fun d c => d.Keyed → c.ignored.Perm ((nodes d).flatMap flaws)) docs cs)
      (keyed : ∀ d ∈ docs, d.Keyed) :
      (cs.flatMap (·.ignored)).Perm ((docs.flatMap nodes).flatMap flaws) := by
    induction h with
    | nil => exact .refl _
    | cons hd _ ih =>
      obtain ⟨hkeyed, hrest⟩ := List.forall_mem_cons.mp keyed
      rw [List.flatMap_cons, List.flatMap_cons, List.flatMap_append]
      exact (hd hkeyed).append (ih hrest)
  rw [under_eq] at keyed ⊢
  generalize children? members key = docs at h keyed ⊢
  cases h with
  | none => exact .refl _
  | some hall => exact hlist hall keyed

/-- The documents under a key are as the node is: they have each key once. -/
theorem keyed_of_mem_under {members : Members} {key : String} {d : Json}
    (keyed : ∀ m ∈ members, m.2.Keyed) (h : d ∈ under members key) : d.Keyed := by
  obtain ⟨docs, hlookup, hd⟩ := mem_under_iff.mp h
  obtain ⟨before, after, rfl, -⟩ := List.lookup_eq_some_iff.mp hlookup
  have hdocs : (Json.arr docs).Keyed :=
    keyed (key, .arr docs) (List.mem_append_right _ List.mem_cons_self)
  cases hdocs with
  | arr hitems => exact hitems d hd

/-- **What compilation reports** are the flaws of all nodes, each once. -/
theorem ignored_perm {levels : Nat} {doc : Json} {c : Compiled}
    (h : compileNode levels doc = .ok c) (keyed : doc.Keyed) :
    c.ignored.Perm ((nodes doc).flatMap flaws) := by
  refine compileNode_induction
    (R := fun doc c => doc.Keyed → c.ignored.Perm ((nodes doc).flatMap flaws)) ?_ ?_ h keyed
  · intro doc hdoc _
    rw [nodes_of_obj?_eq_none hdoc]
    cases doc with
    | obj members => simp [Json.obj?] at hdoc
    | _ => exact .refl _
  · intro members parts hall hany hnone keyed
    cases keyed with
    | obj once keyed =>
      have hunder {key : String} : ∀ d ∈ under members key, d.Keyed :=
        fun d => keyed_of_mem_under keyed
      have hchildren := ((ignoredIn_perm hunder hall).append (ignoredIn_perm hunder hany)).append
        (ignoredIn_perm hunder hnone)
      rw [nodes_obj, List.flatMap_cons]
      simp only [List.flatMap_append]
      refine List.Perm.trans ?_ ((reports_perm once).append hchildren)
      -- the reports of the node stand between those of its children
      show (parts.ignored members).Perm _
      rw [Parts.ignored, ← Multiset.coe_eq_coe]
      simp only [← Multiset.coe_add]
      abel

/-! ## What is in the grammar -/

/-- **A member is in its place**: a list under a logical key, a text under `field` with an
operator beside it, or an operator beside a `field`. -/
theorem flawOf_eq_none_iff {members : Members} {m : String × Json} :
    flawOf members m = none ↔
      (m.1 ∈ logicalKeys → ∃ docs, m.2 = .arr docs) ∧
      (m.1 ∉ logicalKeys →
        (m.1 = "field" ∧ (∃ path, m.2 = .str path) ∧
          ∃ key ∈ keys members, isOperatorKey key = true) ∨
        ("field" ∈ keys members ∧ isOperatorKey m.1 = true)) := by
  obtain ⟨key, value⟩ := m
  have hfield : isOperatorKey "field" = false := by decide
  rw [flawOf]
  by_cases hlogical : key ∈ logicalKeys
  · simp only [hlogical, if_true]
    cases value <;> simp
  · simp only [hlogical, if_false]
    by_cases heq : key = "field"
    · subst heq
      simp only [if_true, hfield]
      cases value <;> simp
    · simp [heq]

/-- **A node has no flaw** where there are lists under its logical keys, and its other members
are none or a leaf. -/
theorem flaws_obj_eq_nil_iff {members : Members} :
    flaws (.obj members) = [] ↔
      (∀ m ∈ members, m.1 ∈ logicalKeys → ∃ docs, m.2 = .arr docs) ∧
        ((∀ m ∈ members, m.1 ∈ logicalKeys) ∨ IsLeaf members) := by
  rw [flaws, List.filterMap_eq_nil_iff]
  simp only [flawOf_eq_none_iff]
  constructor
  · intro h
    refine ⟨fun m hm => (h m hm).1, or_iff_not_imp_left.mpr fun hnot => ?_⟩
    -- any other member says that there is a field, and the field says the rest
    simp only [not_forall] at hnot
    obtain ⟨m, hm, hlogical⟩ := hnot
    have hfield : "field" ∈ keys members := by
      rcases (h m hm).2 hlogical with ⟨heq, -⟩ | ⟨hfield, -⟩
      · exact List.mem_map.mpr ⟨m, hm, heq⟩
      · exact hfield
    obtain ⟨f, hf, hname⟩ := List.mem_map.mp hfield
    have hoperator : ∃ key ∈ keys members, isOperatorKey key = true := by
      rcases (h f hf).2 (by rw [hname]; decide) with ⟨-, -, hoperator⟩ | ⟨-, hoperator⟩
      · exact hoperator
      · exact ⟨f.1, List.mem_map.mpr ⟨f, hf, rfl⟩, hoperator⟩
    refine ⟨hfield, hoperator, fun m hm hlogical => ?_⟩
    rcases (h m hm).2 hlogical with ⟨heq, hpath, -⟩ | ⟨-, hkey⟩
    · exact .inl ⟨heq, hpath⟩
    · exact .inr hkey
  · rintro ⟨hlists, hall | hleaf⟩ m hm
    · exact ⟨hlists m hm, fun hlogical => absurd (hall m hm) hlogical⟩
    · refine ⟨hlists m hm, fun hlogical => ?_⟩
      rcases hleaf.only m hm hlogical with ⟨heq, hpath⟩ | hkey
      · exact .inl ⟨heq, hpath, hleaf.operator⟩
      · exact .inr ⟨hleaf.field, hkey⟩

/-- A node is in the grammar where it has no flaw and its children are. -/
theorem inGrammar_obj_iff {members : Members} :
    InGrammar (.obj members) ↔ flaws (.obj members) = [] ∧
      ∀ key ∈ logicalKeys, ∀ d ∈ under members key, InGrammar d := by
  rw [flaws_obj_eq_nil_iff]
  constructor
  · rintro ⟨hlists, hchildren, hrest⟩
    exact ⟨⟨hlists, hrest⟩, hchildren⟩
  · rintro ⟨⟨hlists, hrest⟩, hchildren⟩
    exact .node hlists hchildren hrest

/-- **A document is in the grammar** where none of its nodes has a flaw. -/
theorem inGrammar_iff {doc : Json} : InGrammar doc ↔ ∀ node ∈ nodes doc, flaws node = [] := by
  induction doc using node_induction with
  | value doc hdoc =>
    rw [nodes_of_obj?_eq_none hdoc]
    refine iff_of_false (fun h => ?_) fun h => ?_
    · cases h
      exact nomatch hdoc
    · have hflaws := h doc List.mem_cons_self
      cases doc with
      | obj members => exact nomatch hdoc
      | _ => exact nomatch hflaws
  | node members ih =>
    rw [inGrammar_obj_iff]
    simp only [mem_nodes_obj_iff]
    constructor
    · rintro ⟨hnode, hchildren⟩ node (rfl | ⟨key, hkey, d, hd, hmem⟩)
      · exact hnode
      · exact (ih key hkey d hd).mp (hchildren key hkey d hd) node hmem
    · intro h
      exact ⟨h _ (.inl rfl), fun key hkey d hd => (ih key hkey d hd).mpr fun node hmem =>
        h node (.inr ⟨key, hkey, d, hd, hmem⟩)⟩

/-! ## Documents -/

theorem nodesOf_some {root : Json} (h : root ≠ .null) : nodesOf (some root) = nodes root := by
  rw [nodesOf]
  simpa using h

/-- What is reported of a document are the flaws of the nodes that are visited, each once. -/
theorem ignored_perm_of_compile {document : Option Json} {c : Compiled}
    (h : compile document = .ok c) (keyed : ∀ root ∈ document, root.Keyed) :
    c.ignored.Perm ((nodesOf document).flatMap flaws) := by
  rcases document with _ | root
  · cases h
    exact .refl _
  · by_cases hnull : root = .null
    · subst hnull
      cases h
      exact .refl _
    · rw [nodesOf_some hnull]
      exact ignored_perm ((compile_some hnull).symm.trans h) (keyed root rfl)

/-- **Reports are exact.** What is read from a text has each key once. A document that is so
and fits in compiles, and what is reported are the flaws of the nodes that are visited, each
once. So a document other than null compiles without a report exactly if it is in the grammar
and fits in. -/
theorem ignored_exact :
    (∀ s doc, Json.read? s = some doc → doc.Keyed) ∧
    ∀ document : Option Json, (∀ root ∈ document, root.Keyed) →
      ((∀ root ∈ document, FitsIn (maxFilterDepth + 1) root) →
        ∃ c, compile document = .ok c ∧ c.ignored.Perm ((nodesOf document).flatMap flaws)) ∧
      ∀ root ∈ document, root ≠ .null →
        ((∃ c, compile document = .ok c ∧ c.ignored = []) ↔
          InGrammar root ∧ FitsIn (maxFilterDepth + 1) root) := by
  refine ⟨fun s doc => Json.keyed_of_read?, fun document keyed => ⟨fun hfits => ?_, ?_⟩⟩
  · obtain ⟨c, hc⟩ := (exists_compile_iff document).mpr hfits
    exact ⟨c, hc, ignored_perm_of_compile hc keyed⟩
  · rintro root ⟨⟩ hnull
    -- nothing is reported where no node has a flaw
    have hnil {c : Compiled} (hc : compile (some root) = .ok c) :
        c.ignored = [] ↔ InGrammar root := by
      have hperm := ignored_perm_of_compile hc keyed
      rw [nodesOf_some hnull] at hperm
      rw [inGrammar_iff, ← List.flatMap_eq_nil_iff]
      exact ⟨fun h => (h ▸ hperm).nil_eq.symm, fun h => (h ▸ hperm).eq_nil⟩
    constructor
    · rintro ⟨c, hc, hignored⟩
      exact ⟨(hnil hc).mp hignored, (exists_compile_iff _).mp ⟨c, hc⟩ root rfl⟩
    · rintro ⟨hgrammar, hfits⟩
      obtain ⟨c, hc⟩ := (exists_compile_iff (some root)).mpr (by rintro _ ⟨⟩; exact hfits)
      exact ⟨c, hc, (hnil hc).mpr hgrammar⟩

/-- A document with a number in the place of a list, a number in the place of a node, and a
key that means nothing beside a leaf. -/
def outOfPlace : Json :=
  .obj [("and", .num (.int 3)), ("eq", .null), ("field", .str "blog"),
    ("or", .arr [.num (.int 5), .obj [("field", .bool true)]]), ("note", .str "eq")]

/-- Each of its flaws is reported once, and nothing else. -/
theorem ignored_exact_outOfPlace :
    ∃ c, compile (some outOfPlace) = .ok c ∧
      c.ignored.Perm [.logicalKey "and" (.num (.int 3)), .key "note", .node (.num (.int 5)),
        .fieldName] := by
  have hitems : ∀ item ∈ [Json.num (.int 5), .obj [("field", .bool true)]], item.Keyed := by
    simp only [List.forall_mem_cons, List.not_mem_nil, false_implies, implies_true, and_true]
    exact ⟨.num _, .obj (by decide) (by simpa using .bool true)⟩
  have hkeyed : outOfPlace.Keyed := by
    refine .obj (by decide) ?_
    simp only [List.forall_mem_cons, List.not_mem_nil, false_implies, implies_true, and_true]
    exact ⟨.num _, .null, .str _, .arr hitems, .str _⟩
  have hfits : FitsIn (maxFilterDepth + 1) outOfPlace := exists_compileNode_iff.mp ⟨_, rfl⟩
  obtain ⟨c, hc, hperm⟩ := (ignored_exact.2 (some outOfPlace) (by rintro _ ⟨⟩; exact hkeyed)).1
    (by rintro _ ⟨⟩; exact hfits)
  refine ⟨c, hc, ?_⟩
  have hnumber : nodes (.num (.int 5)) = [.num (.int 5)] := nodes_of_obj?_eq_none rfl
  have hnodes : (nodesOf (some outOfPlace)).flatMap flaws
      = [.logicalKey "and" (.num (.int 3)), .key "note", .node (.num (.int 5)), .fieldName] := by
    rw [nodesOf_some (by simp [outOfPlace]), outOfPlace, nodes_obj]
    show (.obj _ :: ([] ++ [.num (.int 5), .obj [("field", .bool true)]].flatMap nodes
      ++ [])).flatMap flaws = _
    simp only [List.flatMap_cons, nodes_obj, hnumber]
    rfl
  rw [← hnodes]
  exact hperm

end Readership.Filter

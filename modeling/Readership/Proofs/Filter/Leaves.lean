import Readership.Plan.Store
import Readership.Proofs.Filter.Meaning

/-!
# The leaves of a filter document

The fields and literals of a document stand in its leaves, and `Filter.leaves`
lists them as they are met: at every node those of the documents under `and`,
then `or`, then `not`, then the leaf of the node itself. Compiling rearranges
what is around the leaves and never a leaf: a part that makes no difference
to the result, because it stands beside something that is always true, is kept
with its conditions (`Filter.conditions_eq_leaves`).

So the list of fields that may be named cannot be got around. A document is
refused exactly if one of its leaves names no field or has a literal that the
field does not take (`Condition.Accepted`), whatever that leaf has to say in the
result. The first such leaf decides the fault, and it is the same fault for
every store. A database that is asked such a question is told nothing.
-/

namespace Readership

/-! ## Leaves that are accepted -/

/-- **A literal of a field**: its text spells a value of the kind of the field. -/
def Field.Reads (f : Field) (literal : Json) : Prop :=
  match f.kind with
  | .integer => ∃ n, integerLiteral? literal = some n
  | .text => ∃ s, scalarText? literal = some s
  | .timestamp => ∃ t, instantLiteral? literal = some t

/-- **What a field takes** beside an operator. Null can be equal and be in a
list, but has no place in an order; a list is needed where one is searched, and
any scalar is a text to search for. -/
def Field.Takes (f : Field) : Operator → Json → Prop
  | .eq, literal | .ne, literal => literal = .null ∨ f.Reads literal
  | .gt, literal | .gte, literal | .lt, literal | .lte, literal => f.Reads literal
  | .isIn, literal =>
    ∃ items, literal = .arr items ∧ ∀ item ∈ items, item = .null ∨ f.Reads item
  | .contains, literal => ∃ s, scalarText? literal = some s

/-- **A leaf that is accepted**: its path names a field, and the field takes its
literal. -/
def Condition.Accepted (c : Condition) : Prop :=
  ∃ f, Field.ofPath? c.field = some f ∧ f.Takes c.operator c.value

namespace Field

/-- Null is no literal of any kind. -/
theorem not_reads_null (f : Field) : ¬ f.Reads .null := by
  cases f <;> simp [Reads, kind, integerLiteral?, scalarText?, instantLiteral?]

/-- **A literal has a value** where it is null or one of the field. -/
theorem exists_coerce_iff (f : Field) (literal : Json) :
    (∃ v, f.coerce literal = .ok v) ↔ literal = .null ∨ f.Reads literal := by
  by_cases hnull : literal = .null
  · subst hnull
    exact iff_of_true ⟨.null, coerce_null f⟩ (.inl rfl)
  · rw [or_iff_right hnull, Reads]
    unfold coerce
    cases f.kind <;> simp only
    · cases integerLiteral? literal <;> simp
    · cases scalarText? literal <;> simp
    · cases instantLiteral? literal <;> simp

/-- Only null has the value null. -/
theorem coerce_eq_null_iff {f : Field} {literal : Json} :
    f.coerce literal = .ok .null ↔ literal = .null := by
  constructor
  · intro h
    unfold coerce at h
    split at h
    · rfl
    all_goals split at h <;> cases h
  · rintro rfl
    exact coerce_null f

end Field

namespace Condition

open Outcome

/-- A literal has a place in an order where it is one of the field. -/
theorem exists_ordered_iff (c : Condition) (f : Field) :
    (∃ v, c.ordered f = .ok v) ↔ f.Reads c.value := by
  constructor
  · rintro ⟨v, h⟩
    obtain ⟨w, hw, h⟩ := bind_eq_ok.mp h
    rcases (f.exists_coerce_iff c.value).mp ⟨w, hw⟩ with hnull | hreads
    · rw [Field.coerce_eq_null_iff.mpr hnull] at hw
      cases hw
      cases h
    · exact hreads
  · intro hreads
    obtain ⟨w, hw⟩ := (f.exists_coerce_iff c.value).mpr (.inr hreads)
    have hne : w ≠ .null := by
      rintro rfl
      exact f.not_reads_null (Field.coerce_eq_null_iff.mp hw ▸ hreads)
    refine ⟨w, bind_eq_ok.mpr ⟨w, hw, ?_⟩⟩
    rw [FieldValue.isNull_eq_false hne]
    rfl

/-- The items of a list have values where each of them has one. -/
theorem exists_mapM_coerce_iff (f : Field) (items : List Json) :
    (∃ vs, items.mapM f.coerce = .ok vs) ↔ ∀ item ∈ items, item = .null ∨ f.Reads item := by
  simp only [← f.exists_coerce_iff]
  exact exists_mapM_iff

/-- **A test is made** of an operator and a literal that the field takes. -/
theorem exists_testOf_iff (c : Condition) (f : Field) :
    (∃ t, c.testOf f = .ok t) ↔ f.Takes c.operator c.value := by
  have hmap {α : Type} {x : Except Fault α} {g : α → Test} :
      (∃ t, x.map g = .ok t) ↔ ∃ a, x = .ok a := by
    rw [← verdict_eq_ok, ← verdict_eq_ok, verdict_map]
  obtain ⟨path, op, literal⟩ := c
  cases op with
  | eq | ne => exact hmap.trans (f.exists_coerce_iff literal)
  | gt | gte | lt | lte => exact hmap.trans (exists_ordered_iff _ f)
  | isIn =>
    cases literal with
    | arr items =>
      refine hmap.trans ((exists_mapM_coerce_iff f items).trans ?_)
      simp [Field.Takes]
    | _ => simp [testOf, Field.Takes]
  | contains =>
    simp only [testOf, Field.Takes]
    cases Field.scalarText? literal <;> simp

/-- **The check passes what is accepted.** -/
theorem exists_check_iff (c : Condition) : (∃ k, c.check = .ok k) ↔ c.Accepted := by
  rw [Accepted]
  constructor
  · rintro ⟨k, hk⟩
    obtain ⟨f, hf, h⟩ := bind_eq_ok.mp hk
    obtain ⟨t, ht, -⟩ := bind_eq_ok.mp h
    refine ⟨f, ?_, (c.exists_testOf_iff f).mp ⟨t, ht⟩⟩
    rw [Field.parse] at hf
    split at hf
    next g hg => rw [hg, Except.ok.inj hf]
    next => cases hf
  · rintro ⟨f, hf, htakes⟩
    obtain ⟨t, ht⟩ := (c.exists_testOf_iff f).mpr htakes
    have hparse : Field.parse c.field = .ok f := by rw [Field.parse, hf]
    exact ⟨⟨f, t⟩, bind_eq_ok.mpr ⟨f, hparse, bind_eq_ok.mpr ⟨t, ht, rfl⟩⟩⟩

end Condition

namespace Filter

open Outcome

/-! ## The leaves of a document -/

/-- The documents in the list under a logical key. -/
def under (members : Members) (key : String) : List Json :=
  match members.lookup key with
  | some (.arr docs) => docs
  | _ => []

/-- **The comparisons that a node spells out**: one for each operator that has a
key, if the `field` of the node is a text. -/
def comparisons (members : Members) : List Condition :=
  match members.lookup "field" with
  | some (.str path) =>
    Operator.all.filterMap fun op => (members.lookup op.key).map fun literal => ⟨path, op, literal⟩
  | _ => []

/-- They are the children that are compiled. -/
theorem under_eq (members : Members) (key : String) :
    under members key = (children? members key).getD [] := by
  rw [under, children?]
  rcases members.lookup key with _ | node
  · rfl
  · cases node <;> rfl

theorem sizeOf_lt_of_mem_under {members : Members} {key : String} {d : Json}
    (h : d ∈ under members key) : sizeOf d < sizeOf (Json.obj members) := by
  rw [under] at h
  split at h
  next docs hlookup => exact sizeOf_lt_of_lookup hlookup h
  next => cases h

/-- **The leaves of a document** in the order in which they are met: those under
`and`, under `or` and under `not`, then the first comparison of the node. -/
def leaves : Json → List Condition
  | .obj members =>
    (under members "and").attach.flatMap (fun d => leaves d.1)
      ++ (under members "or").attach.flatMap (fun d => leaves d.1)
      ++ (under members "not").attach.flatMap (fun d => leaves d.1)
      ++ (comparisons members).take 1
  | _ => []
termination_by doc => sizeOf doc
decreasing_by all_goals exact sizeOf_lt_of_mem_under d.2

/-- The leaves of a document; no document has none. -/
def leavesOf (document : Option Json) : List Condition :=
  (document.map leaves).getD []

theorem leaves_obj (members : Members) :
    leaves (.obj members)
      = (under members "and").flatMap leaves ++ (under members "or").flatMap leaves
        ++ (under members "not").flatMap leaves ++ (comparisons members).take 1 := by
  rw [leaves]
  simp only [List.flatMap_subtype, List.unattach_attach]

theorem leaves_of_obj?_eq_none {doc : Json} (h : doc.obj? = none) : leaves doc = [] := by
  cases doc with
  | obj members => simp [Json.obj?] at h
  | _ => simp [leaves]

/-- A `field` that is a text has a leaf for the first operator. -/
theorem leaf?_of_str {members : Members} {path : String}
    (h : members.lookup "field" = some (.str path)) :
    leaf? members = (operatorOf? members).map fun o => ⟨path, o.1, o.2⟩ := by
  rw [leaf?, h]
  cases operatorOf? members <;> rfl

/-- The leaf of a node is its first comparison. -/
theorem toList_leaf? (members : Members) :
    (leaf? members).toList = (comparisons members).take 1 := by
  rw [comparisons]
  split
  next path hfield =>
    rw [leaf?_of_str hfield, operatorOf?, List.map_findSome?, List.take_one, List.head?_filterMap]
    simp only [Function.comp_def, Option.map_map]
  next hfield =>
    rw [leaf?]
    split
    next path op literal hpath hop => exact absurd hpath (hfield path)
    next => rfl

/-! ## Compiling loses no leaf -/

/-- The children under a key have the conditions of the documents there, if each
child has those of its document. -/
theorem conditionsIn_eq_leaves {members : Members} {key : String} {nodes : Option (List Compiled)}
    (h : ChildrenRel (fun d c => c.predicate.conditions = leaves d) (children? members key) nodes) :
    conditionsIn nodes = (under members key).flatMap leaves := by
  have hlist {docs : List Json} {nodes : List Compiled}
      (h : List.Forall₂ (fun d c => c.predicate.conditions = leaves d) docs nodes) :
      nodes.flatMap (fun c => c.predicate.conditions) = docs.flatMap leaves := by
    induction h with
    | nil => rfl
    | cons hd _ ih => rw [List.flatMap_cons, List.flatMap_cons, hd, ih]
  rw [under_eq]
  generalize children? members key = docs at h ⊢
  cases h with
  | none => rfl
  | some hall => exact hlist hall

/-- **The conditions of a compiled document are its leaves**, each in its place. -/
theorem conditions_eq_leaves {levels : Nat} {doc : Json} {c : Compiled}
    (h : compileNode levels doc = .ok c) : c.predicate.conditions = leaves doc := by
  refine compileNode_induction (R := fun doc c => c.predicate.conditions = leaves doc) ?_ ?_ h
  · intro doc hdoc
    rw [leaves_of_obj?_eq_none hdoc, Predicate.conditions_all]
  · intro members parts hall hany hnone
    show (parts.predicate (leaf? members)).conditions = _
    rw [conditions_predicate, conditionsIn_eq_leaves hall, conditionsIn_eq_leaves hany,
      conditionsIn_eq_leaves hnone, toList_leaf?, leaves_obj]

end Filter

/-! ## The verdict of the stores -/

/-- **A database that keeps count of what it is told**: each statement is noted
before the database behind sees it. -/
def Database.noted {m : Type → Type} [Monad m] (db : Database m) :
    Database (StateT (List String) m) :=
  { name := db.name
    execute := fun sql => do
      modify (· ++ [sql])
      StateT.lift (db.execute sql)
    health := StateT.lift db.health }

namespace Predicate

open Outcome

/-- **A predicate is refused** with a fault: it does not pass the check, no store
in memory answers, and no database is told anything. -/
structure Refused (p : Predicate) (fault : Fault) : Prop where
  check : p.check = .error fault
  filterIds : ∀ t : Tables, t.filterIds p = .error fault
  inMemory : ∀ (t : Tables) (plan : Plan), plan.predicate = p → t.aggregate plan = .error fault
  inDatabase : ∀ {m : Type → Type} [Monad m] [LawfulMonad m] (db : Database m) (table : String)
    (plan : Plan) (told : List String), plan.predicate = p →
      ((Store.ofDatabase db.noted table).aggregate plan).run told = pure (.error fault, told)

/-- **A predicate is let through**: it passes the check, every store in memory
answers, and a database is told one statement, from whose answer the rows are
read. -/
structure LetThrough (p : Predicate) : Prop where
  check : ∃ s, p.check = .ok s
  filterIds : ∀ t : Tables, ∃ ids, t.filterIds p = .ok ids
  inMemory : ∀ (t : Tables) (plan : Plan), plan.predicate = p → ∃ rows, t.aggregate plan = .ok rows
  inDatabase : ∀ {m : Type → Type} [Monad m] [LawfulMonad m] (db : Database m) (table : String)
    (plan : Plan) (told : List String), plan.predicate = p → ∃ sql,
      ((Store.ofDatabase db.noted table).aggregate plan).run told
        = db.execute sql >>= fun answer =>
          pure (Fault.ofServer answer >>= Answer.planRows plan, told ++ [sql])

/-- What the check refuses is refused everywhere. -/
theorem refused_iff {p : Predicate} {fault : Fault} :
    p.Refused fault ↔ p.check = .error fault := by
  refine ⟨Refused.check, fun h => ⟨h, fun t => ?_, ?_, ?_⟩⟩
  · rw [Tables.filterIds, h]
    rfl
  · rintro t plan rfl
    rw [Tables.aggregate, h]
    rfl
  · rintro m _ _ db table plan told rfl
    -- there is no statement that the database could be told
    have hplan : Sql.planText plan table = .error fault := by
      rw [Sql.planText, h]
      rfl
    show (Store.askDatabase db.noted table plan).run told = _
    rw [Store.askDatabase, hplan]
    rfl

/-- What passes the check is let through everywhere. -/
theorem letThrough_iff {p : Predicate} : p.LetThrough ↔ ∃ s, p.check = .ok s := by
  refine ⟨LetThrough.check, ?_⟩
  rintro ⟨s, h⟩
  refine ⟨⟨s, h⟩, fun t => ⟨_, by rw [Tables.filterIds, h]; rfl⟩, ?_, ?_⟩
  · rintro t plan rfl
    exact ⟨_, by rw [Tables.aggregate, h]; rfl⟩
  · rintro m _ _ db table plan told rfl
    have hplan : Sql.planText plan table = .ok (Sql.planSelect plan s table).text := by
      rw [Sql.planText, h]
      rfl
    refine ⟨(Sql.planSelect plan s table).text, ?_⟩
    show (Store.askDatabase db.noted table plan).run told = _
    rw [Store.askDatabase, hplan]
    simp [Database.noted]

end Predicate

/-- **The fault of the first leaf that is not accepted.** -/
def Condition.IsFirstFault (leaves : List Condition) (fault : Fault) : Prop :=
  ∃ before c after, leaves = before ++ c :: after
    ∧ (∀ b ∈ before, b.Accepted) ∧ ¬ c.Accepted ∧ c.check = .error fault

namespace Predicate

open Outcome Condition

/-- **The first condition that is not accepted** decides the fault of a check. -/
theorem check_eq_error_iff {p : Predicate} {fault : Fault} :
    p.check = .error fault ↔ IsFirstFault p.conditions fault := by
  rw [← verdict_eq_error, verdict_check, forM_eq_error_iff, IsFirstFault]
  simp only [verdict_eq_ok, exists_check_iff, verdict_eq_error]
  refine exists_congr fun before => exists_congr fun c => exists_congr fun after =>
    and_congr_right fun _ => and_congr_right fun _ => (and_iff_right_of_imp fun hc => ?_).symm
  -- a leaf with a fault is not accepted, as an accepted one has a result
  rw [← exists_check_iff, hc]
  rintro ⟨k, hk⟩
  cases hk

/-- A predicate passes the check where its conditions are accepted. -/
theorem exists_check_iff_accepted (p : Predicate) :
    (∃ s, p.check = .ok s) ↔ ∀ c ∈ p.conditions, c.Accepted := by
  simp only [check_eq_ok_iff, exists_check_iff]

end Predicate

namespace Filter

open Outcome

/-- The conditions of whatever a document compiles to are its leaves; no document
and the document null have none. -/
theorem conditions_eq_leavesOf {document : Option Json} {c : Compiled}
    (h : compile document = .ok c) : c.predicate.conditions = leavesOf document := by
  rcases document with _ | doc
  · cases h
    rfl
  · by_cases hnull : doc = .null
    · subst hnull
      cases h
      simp [leavesOf, leaves]
    · exact conditions_eq_leaves ((compile_some hnull).symm.trans h)

/-- **No leaf gets around the list of fields.** The conditions of a compiled
document are its leaves, each once and in its place. It is refused – by the
check, by every store, and before a database is told anything – exactly with the
fault of the first leaf that is not accepted, and let through exactly if all of
them are. -/
theorem refused_iff_isFirstFault {document : Option Json} {c : Compiled}
    (h : compile document = .ok c) :
    c.predicate.conditions = leavesOf document
      ∧ (∀ fault, c.predicate.Refused fault ↔ Condition.IsFirstFault (leavesOf document) fault)
      ∧ (c.predicate.LetThrough ↔ ∀ leaf ∈ leavesOf document, leaf.Accepted) := by
  have hconditions := conditions_eq_leavesOf h
  refine ⟨hconditions, fun fault => ?_, ?_⟩
  · rw [Predicate.refused_iff, Predicate.check_eq_error_iff, hconditions]
  · rw [Predicate.letThrough_iff, Predicate.exists_check_iff_accepted, hconditions]

/-- A password beside an alternative that is always true, and a blog above null
under two negations. -/
def besideTheTrue : Json :=
  .obj [("not", .arr [.obj [("not", .arr [.obj [("field", .str "blog"), ("gt", .null)]])]]),
    ("or", .arr [.obj [], .obj [("eq", .str "x"), ("field", .str "password")]])]

/-- The password is refused although it could not change the result, and before
the blog is looked at. -/
theorem refused_iff_isFirstFault_besideTheTrue :
    ∃ c, compile (some besideTheTrue) = .ok c ∧ c.predicate.Refused (.field "password") := by
  have hcompile : compile (some besideTheTrue)
      = .ok ⟨.and [.or [.all, .leaf ⟨"password", .eq, .str "x"⟩], .leaf ⟨"blog", .gt, .null⟩], []⟩ :=
    rfl
  obtain ⟨hconditions, hrefused, -⟩ := refused_iff_isFirstFault hcompile
  have hcheck : Condition.check ⟨"password", .eq, .str "x"⟩ = .error (.field "password") := rfl
  refine ⟨_, hcompile, (hrefused _).mpr ⟨[], ⟨"password", .eq, .str "x"⟩,
    [⟨"blog", .gt, .null⟩], hconditions.symm, by simp, ?_, hcheck⟩⟩
  rw [← Condition.exists_check_iff, hcheck]
  rintro ⟨k, hk⟩
  cases hk

end Filter

end Readership

import Mathlib.Data.List.Perm.Basic
import Readership.Json.Reader

/-!
# One member a key

An object may be written with a key twice, and reading keeps the later of the two. So in
every value that is read, however deep, a key stands once (`Json.Keyed`,
`Json.keyed_of_read?`), and to look at the value of a key is to look at the one member that
has it. What goes through the members of such an object one by one can therefore be taken
apart by keys (`Json.perm_filterMap_keys`): the values of the keys that somebody asks for,
and the members that are left.
-/

namespace Readership.Json

open scoped List

/-- **A value in which a key stands once**, in each of its objects. -/
inductive Keyed : Json → Prop where
  | null : Keyed .null
  | bool (b : Bool) : Keyed (.bool b)
  | num (n : Number) : Keyed (.num n)
  | str (s : String) : Keyed (.str s)
  | arr {items : List Json} (keyed : ∀ item ∈ items, Keyed item) : Keyed (.arr items)
  | obj {members : List (String × Json)} (once : (members.map Prod.fst).Nodup)
      (keyed : ∀ m ∈ members, Keyed m.2) : Keyed (.obj members)

/-! ## What is read -/

namespace Object

/-- Members in the order of their keys, each key once. -/
def Sorted (members : List (String × Json)) : Prop :=
  members.Pairwise fun a b => a.1 < b.1

variable {key : String} {value : Json} {members : List (String × Json)}

/-- A member of what has been inserted into is the new one or an old one. -/
theorem mem_insert {m : String × Json} (h : m ∈ insert key value members) :
    m = (key, value) ∨ m ∈ members := by
  induction members with
  | nil => exact .inl (List.mem_singleton.mp h)
  | cons old rest ih =>
    obtain ⟨k, v⟩ := old
    rw [insert] at h
    split at h
    · exact List.mem_cons.mp h
    · split at h
      · exact (List.mem_cons.mp h).imp_right (List.mem_cons_of_mem _)
      · rcases List.mem_cons.mp h with rfl | h
        · exact .inr List.mem_cons_self
        · exact (ih h).imp_right (List.mem_cons_of_mem _)

/-- **Inserting keeps the order.** -/
theorem sorted_insert (h : Sorted members) : Sorted (insert key value members) := by
  induction members with
  | nil => exact List.pairwise_singleton _ _
  | cons old rest ih =>
    obtain ⟨k, v⟩ := old
    obtain ⟨hfirst, hrest⟩ := List.pairwise_cons.mp h
    rw [insert]
    split
    next hlt =>
      refine List.pairwise_cons.mpr ⟨fun m hm => ?_, h⟩
      rcases List.mem_cons.mp hm with rfl | hm
      · exact hlt
      · exact String.lt_trans hlt (hfirst m hm)
    next hge =>
      split
      next heq =>
        subst heq
        exact List.pairwise_cons.mpr ⟨hfirst, hrest⟩
      next hne =>
        have hlt : k < key := by
          by_contra hnot
          exact hne (String.le_antisymm (String.not_lt.mp hnot) (String.not_lt.mp hge))
        refine List.pairwise_cons.mpr ⟨fun m hm => ?_, ih hrest⟩
        rcases mem_insert hm with rfl | hm
        · exact hlt
        · exact hfirst m hm

end Object

/-- **An object made of members** has each key once, and keeps the values of members. -/
theorem keyed_object {members : List (String × Json)} (h : ∀ m ∈ members, m.2.Keyed) :
    (object members).Keyed := by
  -- carried along the members: what has been put together is in order and keyed
  have hfold : ∀ (sorted : List (String × Json)), Object.Sorted sorted →
      (∀ m ∈ sorted, m.2.Keyed) →
      (Json.obj (members.foldl (fun sorted m => Object.insert m.1 m.2 sorted) sorted)).Keyed := by
    induction members with
    | nil =>
      intro sorted hsorted hkeyed
      refine .obj (List.pairwise_map.mpr (hsorted.imp fun hlt heq => ?_)) hkeyed
      exact String.lt_irrefl _ (heq ▸ hlt)
    | cons m rest ih =>
      intro sorted hsorted hkeyed
      obtain ⟨hm, hrest⟩ := List.forall_mem_cons.mp h
      refine ih hrest _ (Object.sorted_insert hsorted) fun m' hm' => ?_
      rcases Object.mem_insert hm' with rfl | hold
      · exact hm
      · exact hkeyed m' hold
  exact hfold [] .nil fun m hm => absurd hm List.not_mem_nil

namespace Written

mutual

/-- **What a text denotes** has each key once. -/
theorem keyed_of_value? {depth : Nat} : ∀ {w : Written} {j : Json}, value? depth w = some j →
    j.Keyed
  | .null, j, h => by
    cases (by simpa [value?] using h : Json.null = j)
    exact .null
  | .bool b, j, h => by
    cases (by simpa [value?] using h : Json.bool b = j)
    exact .bool b
  | .num n, j, h => by
    rw [value?] at h
    obtain ⟨n, -, rfl⟩ := Option.map_eq_some_iff.mp h
    exact .num n
  | .str s, j, h => by
    rw [value?] at h
    obtain ⟨s, -, rfl⟩ := Option.map_eq_some_iff.mp h
    exact .str s
  | .arr items, j, h => by
    rw [value?] at h
    split at h
    · cases h
    · obtain ⟨vs, hvs, rfl⟩ := Option.map_eq_some_iff.mp h
      exact .arr (keyed_of_values? hvs)
  | .obj members, j, h => by
    rw [value?] at h
    split at h
    · cases h
    · obtain ⟨vs, hvs, rfl⟩ := Option.map_eq_some_iff.mp h
      exact keyed_object (keyed_of_fields? hvs)

/-- So have the items of an array. -/
theorem keyed_of_values? {depth : Nat} : ∀ {items : List Written} {vs : List Json},
    values? depth items = some vs → ∀ v ∈ vs, v.Keyed
  | [], vs, h => by
    cases (by simpa [values?] using h : vs = [])
    exact fun v hv => absurd hv List.not_mem_nil
  | item :: rest, vs, h => by
    rw [values?] at h
    obtain ⟨v, hv, h⟩ := Option.bind_eq_some_iff.mp h
    obtain ⟨more, hmore, h⟩ := Option.bind_eq_some_iff.mp h
    cases h
    exact List.forall_mem_cons.mpr ⟨keyed_of_value? hv, keyed_of_values? hmore⟩

/-- So have the values of members. -/
theorem keyed_of_fields? {depth : Nat} : ∀ {members : List (Option String × Written)}
    {vs : List (String × Json)}, fields? depth members = some vs → ∀ m ∈ vs, m.2.Keyed
  | [], vs, h => by
    cases (by simpa [fields?] using h : vs = [])
    exact fun v hv => absurd hv List.not_mem_nil
  | (key, item) :: rest, vs, h => by
    rw [fields?] at h
    obtain ⟨k, -, h⟩ := Option.bind_eq_some_iff.mp h
    obtain ⟨v, hv, h⟩ := Option.bind_eq_some_iff.mp h
    obtain ⟨more, hmore, h⟩ := Option.bind_eq_some_iff.mp h
    cases h
    exact List.forall_mem_cons.mpr ⟨keyed_of_value? hv, keyed_of_fields? hmore⟩

end

end Written

/-- **What is read from a text** has each key once. -/
theorem keyed_of_read? {s : String} {j : Json} (h : read? s = some j) : j.Keyed := by
  obtain ⟨w, -, hw⟩ := Option.bind_eq_some_iff.mp h
  exact Written.keyed_of_value? hw

/-! ## Members by their keys -/

variable {β : Type} {members : List (String × Json)}

/-- What the member of a key gives. -/
def ofKey (f : String × Json → Option β) (members : List (String × Json)) (key : String) :
    List β :=
  ((members.lookup key).bind fun value => f (key, value)).toList

theorem filterMap_cons_eq (f : String × Json → Option β) (m : String × Json) :
    (m :: members).filterMap f = (f m).toList ++ members.filterMap f := by
  rw [List.filterMap_cons]
  cases f m <;> rfl

/-- **One key.** What members give is what the member of a key gives and what the others
give. -/
theorem perm_filterMap_key (once : (members.map Prod.fst).Nodup) (f : String × Json → Option β)
    (key : String) :
    (members.filterMap f).Perm
      (ofKey f members key ++ members.filterMap fun m => if m.1 = key then none else f m) := by
  induction members with
  | nil => exact .refl _
  | cons m rest ih =>
    obtain ⟨k, v⟩ := m
    obtain ⟨hk, hrest⟩ := List.nodup_cons.mp once
    rw [filterMap_cons_eq, filterMap_cons_eq]
    by_cases heq : k = key
    · subst heq
      -- no other member has the key, so the others give all that they give
      have hothers : rest.filterMap (fun m => if m.1 = k then none else f m)
          = rest.filterMap f := by
        refine List.filterMap_congr fun m hm => if_neg fun heq => hk ?_
        exact List.mem_map.mpr ⟨m, hm, heq⟩
      rw [hothers, ofKey, List.lookup_cons_self, if_pos rfl]
      exact .refl _
    · have hlookup : ofKey f ((k, v) :: rest) key = ofKey f rest key := by
        rw [ofKey, ofKey, List.lookup_cons, beq_false_of_ne (Ne.symm heq)]
      rw [hlookup, if_neg heq]
      calc (f (k, v)).toList ++ rest.filterMap f
        _ ~ (f (k, v)).toList ++ (ofKey f rest key
            ++ rest.filterMap fun m => if m.1 = key then none else f m) :=
          (ih hrest).append_left _
        _ ~ ofKey f rest key ++ ((f (k, v)).toList
            ++ rest.filterMap fun m => if m.1 = key then none else f m) :=
          List.perm_append_comm_assoc _ _ _

/-- **Several keys.** What members give is what the members of some keys give, key by key,
and what the members that are left give. -/
theorem perm_filterMap_keys (once : (members.map Prod.fst).Nodup) {keys : List String}
    (hkeys : keys.Nodup) (f : String × Json → Option β) :
    (members.filterMap f).Perm
      (keys.flatMap (ofKey f members)
        ++ members.filterMap fun m => if m.1 ∈ keys then none else f m) := by
  induction keys generalizing f with
  | nil => simp
  | cons key keys ih =>
    obtain ⟨hkey, hkeys⟩ := List.nodup_cons.mp hkeys
    have hothers : keys.flatMap (ofKey (fun m => if m.1 = key then none else f m) members)
        = keys.flatMap (ofKey f members) := by
      refine List.flatMap_congr fun k hk => ?_
      have hne : k ≠ key := fun heq => hkey (heq ▸ hk)
      simp only [ofKey, if_neg hne]
    have hleft : (members.filterMap fun m =>
          if m.1 ∈ keys then none else if m.1 = key then none else f m)
        = members.filterMap fun m => if m.1 ∈ key :: keys then none else f m := by
      refine List.filterMap_congr fun m _ => ?_
      by_cases heq : m.1 = key <;> simp [heq]
    have hrest := ih hkeys fun m => if m.1 = key then none else f m
    rw [hothers, hleft] at hrest
    rw [List.flatMap_cons, List.append_assoc]
    exact (perm_filterMap_key once f key).trans (hrest.append_left _)

end Readership.Json

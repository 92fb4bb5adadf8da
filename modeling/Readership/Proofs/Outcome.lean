import Mathlib.Data.List.Forall2
import Readership.Fault

/-!
# Outcomes

Checking, compiling and entering end with a result or with a fault, and a
chain of such steps ends with the first fault. The lemmas here take a chain
apart: a chain has a result exactly where each step has, and going through a
list has results exactly where each item has one (`Outcome.mapM_eq_ok`).

`Outcome.verdict` forgets the result and keeps the fault. Two chains with
one verdict pass and fail together, with the same fault, which is how "the
first leaf that does not pass decides" is said of checking a predicate.

`Outcome.Follows` sets two chains side by side: where the one has a result, the
other has one that is related to it. Each way of making a chain keeps this, so it
is enough to compare the steps. `Outcome.Agree` says in addition that they fail
together, with the same fault.
-/

namespace Readership.Outcome

variable {ε α β : Type}

/-- A chain has a result where both steps have. -/
theorem bind_eq_ok {x : Except ε α} {f : α → Except ε β} {b : β} :
    (x >>= f) = .ok b ↔ ∃ a, x = .ok a ∧ f a = .ok b := by
  cases x <;> simp [bind, Except.bind]

/-- A result can be rewritten only where there is one. -/
theorem map_eq_ok {x : Except ε α} {f : α → β} {b : β} :
    x.map f = .ok b ↔ ∃ a, x = .ok a ∧ f a = b := by
  cases x <;> simp [Except.map]

/-- **A chain ends with the first fault**: that of the first step, or that of the second
after a result of the first. -/
theorem bind_eq_error {x : Except ε α} {f : α → Except ε β} {e : ε} :
    (x >>= f) = .error e ↔ x = .error e ∨ ∃ a, x = .ok a ∧ f a = .error e := by
  cases x <;> simp [bind, Except.bind]

/-- Rewriting a result brings no fault. -/
theorem map_eq_error {x : Except ε α} {f : α → β} {e : ε} :
    x.map f = .error e ↔ x = .error e := by
  cases x <;> simp [Except.map]

/-- A chain of changes has a result where both steps have, each in the state that the one
before it leaves. -/
theorem run_bind_eq_ok {σ : Type} {x : EStateM ε σ α} {f : α → EStateM ε σ β} {s s' : σ} {b : β} :
    (x >>= f).run s = .ok b s' ↔ ∃ a r, x.run s = .ok a r ∧ (f a).run r = .ok b s' := by
  rw [EStateM.run_bind]
  cases x.run s <;> simp

/-- **A chain of changes ends with the first fault**, in the state that it leaves. -/
theorem run_bind_eq_error {σ : Type} {x : EStateM ε σ α} {f : α → EStateM ε σ β} {s s' : σ}
    {e : ε} :
    (x >>= f).run s = .error e s' ↔
      x.run s = .error e s' ∨ ∃ a r, x.run s = .ok a r ∧ (f a).run r = .error e s' := by
  rw [EStateM.run_bind]
  cases x.run s <;> simp

/-- There is a fault where there is no result. -/
theorem exists_eq_error_iff {x : Except ε α} :
    (∃ e, x = .error e) ↔ ¬ ∃ a, x = .ok a := by
  cases x <;> simp

/-- **Going through a list** has results exactly where each item has one, and
they are the results in the order of the items. -/
theorem mapM_eq_ok {f : α → Except ε β} {xs : List α} {ys : List β} :
    xs.mapM f = .ok ys ↔ List.Forall₂ (fun x y => f x = .ok y) xs ys := by
  induction xs generalizing ys with
  | nil => cases ys <;> simp [pure, Except.pure]
  | cons x xs ih =>
    rw [List.mapM_cons, bind_eq_ok]
    constructor
    · rintro ⟨y, hy, hrest⟩
      obtain ⟨zs, hzs, hcons⟩ := bind_eq_ok.mp hrest
      cases hcons
      exact List.Forall₂.cons hy (ih.mp hzs)
    · intro h
      cases h with
      | cons hy hrest =>
        exact ⟨_, hy, bind_eq_ok.mpr ⟨_, ih.mpr hrest, rfl⟩⟩

/-- **The results of going through a list** are those of its items. -/
theorem mem_mapM_iff {f : α → Except ε β} {xs : List α} {ys : List β}
    (h : xs.mapM f = .ok ys) {z : β} : z ∈ ys ↔ ∃ x ∈ xs, f x = .ok z := by
  induction mapM_eq_ok.mp h with
  | nil => simp
  | @cons x y xs ys hx hrest ih =>
    rw [List.mem_cons, ih (mapM_eq_ok.mpr hrest), List.exists_mem_cons_iff, hx, Except.ok.injEq,
      eq_comm]

/-- Every result of going through a list is the result of an item. -/
theorem exists_of_mem_mapM {f : α → Except ε β} {xs : List α} {ys : List β}
    (h : xs.mapM f = .ok ys) : ∀ y ∈ ys, ∃ x ∈ xs, f x = .ok y :=
  fun _ => (mem_mapM_iff h).mp

/-- Going through a list has results where each item has one. -/
theorem exists_mapM_iff {f : α → Except ε β} {xs : List α} :
    (∃ ys, xs.mapM f = .ok ys) ↔ ∀ x ∈ xs, ∃ y, f x = .ok y := by
  simp only [mapM_eq_ok]
  induction xs with
  | nil => simp
  | cons x xs ih =>
    rw [List.forall_mem_cons, ← ih]
    constructor
    · rintro ⟨_, h⟩
      cases h with
      | cons hx hrest => exact ⟨⟨_, hx⟩, _, hrest⟩
    · rintro ⟨⟨y, hy⟩, ys, hys⟩
      exact ⟨y :: ys, .cons hy hys⟩

/-- **Going through a list where each item has a result** of some kind gives results of
that kind. -/
theorem exists_mapM_of_forall {f : α → Except ε β} {R : α → β → Prop} {xs : List α}
    (h : ∀ x ∈ xs, ∃ y, f x = .ok y ∧ R x y) :
    ∃ ys, xs.mapM f = .ok ys ∧ List.Forall₂ R xs ys := by
  simp only [mapM_eq_ok]
  induction xs with
  | nil => exact ⟨[], .nil, .nil⟩
  | cons x xs ih =>
    obtain ⟨⟨y, hy, hxy⟩, hrest⟩ := List.forall_mem_cons.mp h
    obtain ⟨ys, hys, hrelated⟩ := ih hrest
    exact ⟨y :: ys, .cons hy hys, .cons hxy hrelated⟩

/-- Whether there is a result, or the fault that there is instead. -/
def verdict (x : Except ε α) : Except ε Unit :=
  x.map fun _ => ()

@[simp] theorem verdict_ok (a : α) : verdict (.ok a : Except ε α) = .ok () := rfl

@[simp] theorem verdict_error (e : ε) : verdict (.error e : Except ε α) = .error e := rfl

/-- The verdict is good exactly where there is a result. -/
theorem verdict_eq_ok {x : Except ε α} : verdict x = .ok () ↔ ∃ a, x = .ok a := by
  cases x <;> simp

/-- Rewriting the result leaves the verdict. -/
@[simp] theorem verdict_map (x : Except ε α) (f : α → β) : verdict (x.map f) = verdict x := by
  cases x <;> rfl

/-- **The verdict of a chain** is the chain of the verdicts, where what the
second step does to the result does not change whether there is one. -/
theorem verdict_bind (x : Except ε α) (f : α → Except ε β) (v : Except ε Unit)
    (h : ∀ a, verdict (f a) = v) : verdict (x >>= f) = verdict x >>= fun _ => v := by
  cases x with
  | error e => rfl
  | ok a => exact h a

/-- **The first fault decides.** Going through a list of steps ends with a fault
exactly where one of the steps does, all before it being passed. -/
theorem forM_eq_error_iff {f : α → Except ε Unit} {xs : List α} {e : ε} :
    forM xs f = .error e
      ↔ ∃ before x after, xs = before ++ x :: after
        ∧ (∀ b ∈ before, f b = .ok ()) ∧ f x = .error e := by
  induction xs with
  | nil => simp [pure, Except.pure]
  | cons x xs ih =>
    rw [List.forM_cons]
    cases hx : f x with
    | error e' =>
      -- the first step decides, and there is none before it
      constructor
      · intro h
        exact ⟨[], x, xs, rfl, by simp, hx.trans h⟩
      · rintro ⟨before, y, after, hlist, hpassed, hy⟩
        cases before with
        | nil =>
          cases hlist
          exact hx.symm.trans hy
        | cons b before =>
          cases hlist
          exact nomatch hx.symm.trans (hpassed x List.mem_cons_self)
    | ok u =>
      show forM xs f = .error e ↔ _
      rw [ih]
      constructor
      · rintro ⟨before, y, after, rfl, hpassed, hy⟩
        exact ⟨x :: before, y, after, rfl, List.forall_mem_cons.mpr ⟨hx, hpassed⟩, hy⟩
      · rintro ⟨before, y, after, hlist, hpassed, hy⟩
        cases before with
        | nil =>
          cases hlist
          exact nomatch hx.symm.trans hy
        | cons b before =>
          cases hlist
          exact ⟨before, y, after, rfl, (List.forall_mem_cons.mp hpassed).2, hy⟩

/-- The verdict keeps the fault. -/
theorem verdict_eq_error {x : Except ε α} {e : ε} : verdict x = .error e ↔ x = .error e :=
  map_eq_error

/-- The verdict of going through a list is that of its items, one after the other. -/
theorem verdict_mapM (f : α → Except ε β) (xs : List α) :
    verdict (xs.mapM f) = forM xs fun x => verdict (f x) := by
  induction xs with
  | nil => rfl
  | cons x xs ih =>
    rw [List.mapM_cons, List.forM_cons, ← ih]
    exact verdict_bind _ _ _ fun y => verdict_map (xs.mapM f) (y :: ·)

/-- **Going through a list ends with the fault of the first item that has one.** -/
theorem mapM_eq_error_iff {f : α → Except ε β} {xs : List α} {e : ε} :
    xs.mapM f = .error e
      ↔ ∃ before x after, xs = before ++ x :: after
        ∧ (∀ b ∈ before, ∃ y, f b = .ok y) ∧ f x = .error e := by
  rw [← verdict_eq_error, verdict_mapM, forM_eq_error_iff]
  simp only [verdict_eq_ok, verdict_eq_error]

/-! ## Two outcomes side by side -/

/-- **One outcome follows another**: where the first has a result, the second has one
that is related to it. -/
def Follows (R : α → β → Prop) (x : Except ε α) (y : Except ε β) : Prop :=
  ∀ a, x = .ok a → ∃ b, y = .ok b ∧ R a b

section Follows

variable {γ δ : Type} {R : α → β → Prop} {S : γ → δ → Prop}

theorem Follows.ok {a : α} {b : β} (h : R a b) : Follows R (.ok a : Except ε α) (.ok b) := by
  intro a' ha
  cases ha
  exact ⟨b, rfl, h⟩

/-- Results rewritten alike. -/
theorem Follows.map {x : Except ε α} {y : Except ε β} (h : Follows R x y) {f : α → γ}
    {g : β → δ} (hfg : ∀ {a b}, R a b → S (f a) (g b)) : Follows S (x.map f) (y.map g) := by
  intro c hc
  obtain ⟨a, ha, rfl⟩ := map_eq_ok.mp hc
  obtain ⟨b, hb, hab⟩ := h a ha
  exact ⟨g b, map_eq_ok.mpr ⟨b, hb, rfl⟩, hfg hab⟩

/-- **Chains follow one another** step by step. -/
theorem Follows.bind {x : Except ε α} {y : Except ε β} (h : Follows R x y)
    {f : α → Except ε γ} {g : β → Except ε δ}
    (hfg : ∀ {a b}, x = .ok a → R a b → Follows S (f a) (g b)) :
    Follows S (x >>= f) (y >>= g) := by
  intro c hc
  obtain ⟨a, ha, hfa⟩ := bind_eq_ok.mp hc
  obtain ⟨b, hb, hab⟩ := h a ha
  obtain ⟨d, hd, hcd⟩ := hfg ha hab c hfa
  exact ⟨d, bind_eq_ok.mpr ⟨b, hb, hd⟩, hcd⟩

/-- **Lists are gone through side by side** if their items are. -/
theorem Follows.mapM {f : α → Except ε γ} {g : β → Except ε δ} {xs : List α} {ys : List β}
    (h : List.Forall₂ (fun x y => Follows S (f x) (g y)) xs ys) :
    Follows (List.Forall₂ S) (xs.mapM f) (ys.mapM g) := by
  simp only [Follows, mapM_eq_ok]
  induction h with
  | nil =>
    intro cs hcs
    cases hcs
    exact ⟨[], .nil, .nil⟩
  | cons hxy _ ih =>
    intro cs hcs
    cases hcs with
    | cons hc hrest =>
      obtain ⟨d, hd, hcd⟩ := hxy _ hc
      obtain ⟨ds, hds, hrelated⟩ := ih _ hrest
      exact ⟨d :: ds, .cons hd hds, .cons hcd hrelated⟩

end Follows

/-- **Two outcomes agree**: they have related results or the same fault. -/
inductive Agree (R : α → β → Prop) : Except ε α → Except ε β → Prop where
  | ok {a : α} {b : β} (h : R a b) : Agree R (.ok a) (.ok b)
  | error (e : ε) : Agree R (.error e) (.error e)

/-- One outcome with its result rewritten in two ways. -/
theorem Agree.of_map {γ : Type} {R : β → γ → Prop} {x : Except ε α} {f : α → β} {g : α → γ}
    (h : ∀ a, R (f a) (g a)) : Agree R (x.map f) (x.map g) := by
  cases x with
  | error e => exact .error e
  | ok a => exact .ok (h a)

end Readership.Outcome

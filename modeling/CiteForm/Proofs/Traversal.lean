import Mathlib.Data.List.Forall2
/-!
# Traversals that may fail

Rendering a template and reading a suite are both traversals in `Except`: `List.mapM` of a step
that may refuse, one bind after another. This module holds what the proofs about them share.

* One step: `Except.ok_bind`, `Except.error_bind`, `Except.pure_eq_ok`, and where an error can
  come from (`Except.bind_eq_error`, `Except.map_eq_error`). Mapping over a result is the
  library's `Except.map_ok` and `Except.map_error`.
* Success read as an option (`Except.toOption_*`), so that two traversals with different errors
  can be compared on what they give.
* A whole traversal, by induction on the list, each step read off `List.mapM_cons_eq_ok`,
  `List.mapM_cons_eq_error` or `List.mapM_cons_toOption`: it succeeds when every step does
  (`List.mapM_ok_of_forall`), keeps its result when every step does (`List.mapM_ok_of_ok`),
  reports an error of some step (`List.exists_of_mapM_error`), and gives related lists on
  related inputs (`List.mapM_rel`, through `Option.Rel.bind` and `Option.Rel.map`).
* What the results spell: a subsequence of the inputs' texts when each result's is
  (`List.flatMap_sublist_of_mapM`).
-/

namespace CiteForm

/-! ### One step -/

section Steps

variable {α β ε : Type}

@[simp] theorem Except.ok_bind (a : α) (f : α → Except ε β) : (Except.ok a >>= f) = f a := rfl
@[simp] theorem Except.error_bind (e : ε) (f : α → Except ε β) :
    (Except.error e >>= f) = Except.error e := rfl
@[simp] theorem Except.pure_eq_ok (a : α) : (pure a : Except ε α) = .ok a := rfl

theorem Except.bind_eq_error {x : Except ε α} {f : α → Except ε β} {e : ε} :
    x >>= f = .error e ↔ x = .error e ∨ ∃ a, x = .ok a ∧ f a = .error e := by
  cases x <;> simp

theorem Except.map_eq_error {x : Except ε α} {f : α → β} {e : ε} :
    f <$> x = .error e ↔ x = .error e := by
  cases x <;> simp

@[simp] theorem Except.toOption_ok (a : α) : (Except.ok a : Except ε α).toOption = some a := rfl

@[simp] theorem Except.toOption_error (e : ε) : (Except.error e : Except ε α).toOption = none :=
  rfl

theorem Except.toOption_bind (x : Except ε α) (k : α → Except ε β) :
    (x >>= k).toOption = x.toOption.bind fun a => (k a).toOption := by
  cases x <;> rfl

theorem Except.toOption_bind_pure (x : Except ε α) (f : α → β) :
    (x >>= fun a => pure (f a)).toOption = x.toOption.map f := by
  cases x <;> rfl

theorem Except.toOption_map (x : Except ε α) (f : α → β) :
    (f <$> x).toOption = x.toOption.map f := by
  cases x <;> rfl

end Steps

theorem Option.Rel.map {α β γ δ : Type} {R : α → β → Prop} {S : γ → δ → Prop} {f : α → γ}
    {g : β → δ} (hfg : ∀ a b, R a b → S (f a) (g b)) :
    ∀ {x : Option α} {y : Option β}, Option.Rel R x y → Option.Rel S (x.map f) (y.map g)
  | _, _, .some h => .some (hfg _ _ h)
  | _, _, .none => .none

theorem Option.Rel.bind {α β γ δ : Type} {R : α → β → Prop} {S : γ → δ → Prop}
    {k : α → Option γ} {k' : β → Option δ} (hk : ∀ a b, R a b → Option.Rel S (k a) (k' b)) :
    ∀ {x : Option α} {y : Option β}, Option.Rel R x y → Option.Rel S (x.bind k) (y.bind k')
  | _, _, .some h => hk _ _ h
  | _, _, .none => .none

/-! ### Whole traversals -/

section Traversal

variable {α β γ δ ε ε' : Type}

/-- A traversal of `x :: l` succeeds exactly when the step on `x` and the traversal of `l` do. -/
theorem List.mapM_cons_eq_ok {f : α → Except ε β} {x : α} {l : List α} {r : List β} :
    (x :: l).mapM f = .ok r ↔ ∃ y ys, f x = .ok y ∧ l.mapM f = .ok ys ∧ r = y :: ys := by
  rw [List.mapM_cons]
  cases f x <;> cases l.mapM f <;> simp [eq_comm]

/-- A traversal of `x :: l` fails with the step on `x`'s error, or with the traversal of `l`'s
once that step succeeds. -/
theorem List.mapM_cons_eq_error {f : α → Except ε β} {x : α} {l : List α} {e : ε} :
    (x :: l).mapM f = .error e ↔ f x = .error e ∨ ∃ y, f x = .ok y ∧ l.mapM f = .error e := by
  rw [List.mapM_cons]
  cases f x <;> cases l.mapM f <;> simp

/-- A traversal of `x :: l`, read as an option: the step on `x`, then the rest after it. -/
theorem List.mapM_cons_toOption (f : α → Except ε β) (x : α) (l : List α) :
    ((x :: l).mapM f).toOption =
      (f x).toOption.bind fun y => (l.mapM f).toOption.map (y :: ·) := by
  rw [List.mapM_cons, Except.toOption_bind]
  congr 1
  funext y
  rw [Except.toOption_bind_pure]

theorem List.mapM_congr_mem {f g : α → Except ε β} :
    ∀ {l : List α}, (∀ x ∈ l, f x = g x) → l.mapM f = l.mapM g
  | [], _ => rfl
  | x :: l, h => by
    simp only [List.mapM_cons, h x List.mem_cons_self,
      List.mapM_congr_mem fun y hy => h y (List.mem_cons_of_mem x hy)]

theorem List.mapM_ok_of_ok {f g : α → Except ε β} :
    ∀ {l : List α} {r : List β}, l.mapM f = .ok r →
      (∀ x ∈ l, ∀ y, f x = .ok y → g x = .ok y) → l.mapM g = .ok r
  | [], _, h, _ => h
  | x :: l, r, h, hfg => by
    obtain ⟨y, ys, hx, hl, rfl⟩ := List.mapM_cons_eq_ok.mp h
    have htail := List.mapM_ok_of_ok hl fun z hz => hfg z (List.mem_cons_of_mem x hz)
    exact List.mapM_cons_eq_ok.mpr ⟨y, ys, hfg x List.mem_cons_self y hx, htail, rfl⟩

theorem List.exists_of_mapM_error {f : α → Except ε β} :
    ∀ {l : List α} {e : ε}, l.mapM f = .error e → ∃ x ∈ l, f x = .error e
  | [], _, h => by simp at h
  | x :: l, e, h => by
    rcases List.mapM_cons_eq_error.mp h with hx | ⟨y, -, hl⟩
    · exact ⟨x, List.mem_cons_self, hx⟩
    · obtain ⟨z, hz, hfz⟩ := List.exists_of_mapM_error hl
      exact ⟨z, List.mem_cons_of_mem x hz, hfz⟩

theorem List.mapM_ok_of_forall {f : α → Except ε β} :
    ∀ {l : List α}, (∀ x ∈ l, ∃ y, f x = .ok y) → ∃ r, l.mapM f = .ok r
  | [], _ => ⟨[], rfl⟩
  | x :: l, h => by
    obtain ⟨y, hy⟩ := h x List.mem_cons_self
    obtain ⟨r, hr⟩ := List.mapM_ok_of_forall fun z hz => h z (List.mem_cons_of_mem x hz)
    exact ⟨y :: r, List.mapM_cons_eq_ok.mpr ⟨y, r, hy, hr, rfl⟩⟩

/-- Traversals whose steps give related results on related elements give related lists. -/
theorem List.mapM_rel {R : α → β → Prop} {S : γ → δ → Prop} {f : α → Except ε γ}
    {g : β → Except ε' δ} (hfg : ∀ a b, R a b → Option.Rel S (f a).toOption (g b).toOption) :
    ∀ {l : List α} {l' : List β}, List.Forall₂ R l l' →
      Option.Rel (List.Forall₂ S) (l.mapM f).toOption (l'.mapM g).toOption
  | [], [], .nil => .some .nil
  | a :: l, b :: l', .cons hab hl => by
    rw [List.mapM_cons_toOption, List.mapM_cons_toOption]
    -- related heads, then related tails, each side stopping at its first failure
    exact Option.Rel.bind (fun y y' hs =>
      Option.Rel.map (fun ys ys' hss => .cons hs hss) (List.mapM_rel hfg hl)) (hfg a b hab)

/-- Traversals whose steps agree on success agree on success. -/
theorem List.mapM_toOption_congr {f g : α → Except ε β} :
    ∀ {l : List α}, (∀ x ∈ l, (f x).toOption = (g x).toOption) →
      (l.mapM f).toOption = (l.mapM g).toOption
  | [], _ => rfl
  | x :: l, h => by
    simp only [List.mapM_cons, Except.toOption_bind, h x List.mem_cons_self,
      List.mapM_toOption_congr fun y hy => h y (List.mem_cons_of_mem x hy)]

/-- A traversal of two lists succeeds when each part does, with the results one after the
other. -/
theorem List.mapM_append_toOption (f : α → Except ε β) (l₁ l₂ : List α) :
    ((l₁ ++ l₂).mapM f).toOption =
      (l₁.mapM f).toOption.bind fun a => (l₂.mapM f).toOption.map (a ++ ·) := by
  rw [List.mapM_append, Except.toOption_bind]
  congr 1
  funext a
  rw [Except.toOption_bind_pure]

end Traversal

/-! ### Traversals in `Option` -/

section Options

variable {κ β : Type} {f : κ → Option β}

/-- A list whose every member has a result maps to the list of results. -/
theorem List.mapM_eq_some_filterMap {xs : List κ} (h : ∀ a ∈ xs, (f a).isSome) :
    xs.mapM f = some (xs.filterMap f) := by
  induction xs with
  | nil => rfl
  | cons a xs ih =>
    obtain ⟨b, hb⟩ := Option.isSome_iff_exists.mp (h a List.mem_cons_self)
    rw [List.mapM_cons, hb, ih fun a' ha' => h a' (List.mem_cons_of_mem a ha'),
      List.filterMap_cons_some hb]
    rfl

theorem List.isSome_of_mapM_eq_some {xs : List κ} {ys : List β} (h : xs.mapM f = some ys) :
    ∀ a ∈ xs, (f a).isSome := by
  induction xs generalizing ys with
  | nil => simp
  | cons a xs ih =>
    rw [List.mapM_cons] at h
    cases ha : f a with
    | none => simp [ha] at h
    | some b =>
      cases hxs : xs.mapM f with
      | none => simp [ha, hxs] at h
      | some bs => exact List.forall_mem_cons.mpr ⟨by simp [ha], ih hxs⟩

end Options

/-! ### What the results spell -/

section Sublists

variable {α β γ ε : Type}

/-- A successful traversal whose every result spells a subsequence of its element's text spells a
subsequence of the texts of the whole list. -/
theorem List.flatMap_sublist_of_mapM {f : α → Except ε β} {g : β → List γ}
    {h : α → List γ}
    (hfg : ∀ a b, f a = .ok b → (g b).Sublist (h a)) :
    ∀ {l : List α} {r : List β}, l.mapM f = .ok r → (r.flatMap g).Sublist (l.flatMap h)
  | [], r, hm => by
    simp only [List.mapM_nil, Except.pure_eq_ok, Except.ok.injEq] at hm
    subst hm
    exact .slnil
  | a :: l, r, hm => by
    obtain ⟨b, bs, ha, hl, rfl⟩ := List.mapM_cons_eq_ok.mp hm
    simpa using (hfg a b ha).append (List.flatMap_sublist_of_mapM hfg hl)

theorem List.flatMap_sublist_of_forall₂ {R : α → β → Prop} {f : α → List γ}
    {g : β → List γ} (hfg : ∀ a b, R a b → (f a).Sublist (g b)) :
    ∀ {l : List α} {l' : List β}, List.Forall₂ R l l' → (l.flatMap f).Sublist (l'.flatMap g)
  | [], [], .nil => .slnil
  | _ :: _, _ :: _, .cons hab hl => by
    simpa using (hfg _ _ hab).append (List.flatMap_sublist_of_forall₂ hfg hl)

theorem List.flatten_sublist_of_forall₂ {l l' : List (List α)}
    (h : List.Forall₂ List.Sublist l l') : l.flatten.Sublist l'.flatten := by
  induction h with
  | nil => exact .slnil
  | cons hab _ ih => simpa using hab.append ih

end Sublists

end CiteForm

import CiteForm.Suite.Validate
import Mathlib.Data.List.Forall2
/-!
# Laws of checking

A check gives its result beside the problems it found, or a fault. It is a monad: binding runs
the second check after the first and puts the problems of the first in front. Two facts carry
the proofs about the validator. A bound check finds nothing exactly when both parts find
nothing (`bind_eq_ok_nil`), and it faults exactly when a part that ran faulted
(`bind_eq_error`). A computation that can only fault, run as a check through `liftM`, finds
nothing.

* `Checking.bind_eq_ok_nil`, `Checking.bind_eq_error` — binding, inverted.
* `Checking.forIn_eq_ok_nil`, `Checking.forIn_eq_error` — loops whose every step goes on.
* `Checking.filterMapM_eq_ok_nil` — keeping the results of checks that give one whenever they
  find nothing.
-/

namespace CiteForm.Checking

variable {β γ κ : Type}

@[ext] theorem ext {x y : Checking β} (h : x.run = y.run) : x = y := by
  cases x
  cases y
  cases h
  rfl

@[simp] theorem run_pure (b : β) : (pure b : Checking β).run = .ok (b, []) := rfl

@[simp] theorem run_after (ps : List Problem) (x : Checking β) :
    (after ps x).run = x.run.map fun p => (p.1, ps ++ p.2) := by
  unfold after
  cases x.run with
  | error e => rfl
  | ok p => rfl

theorem run_bind (x : Checking β) (f : β → Checking γ) :
    (x >>= f).run = match x.run with
      | .error e => .error e
      | .ok (b, ps) => (f b).run.map fun p => (p.1, ps ++ p.2) := by
  show (match x.run with
    | .error e => ⟨.error e⟩
    | .ok (b, ps) => after ps (f b) : Checking γ).run = _
  cases x.run with
  | error e => rfl
  | ok p => exact run_after _ _

@[simp] theorem run_bind_of_ok {x : Checking β} {b : β} {ps : List Problem} (h : x.run = .ok (b, ps))
    (f : β → Checking γ) : (x >>= f).run = (f b).run.map fun p => (p.1, ps ++ p.2) := by
  rw [run_bind, h]

@[simp] theorem run_bind_of_error {x : Checking β} {e : Fault} (h : x.run = .error e)
    (f : β → Checking γ) : (x >>= f).run = .error e := by
  rw [run_bind, h]

@[simp] theorem run_map (f : β → γ) (x : Checking β) :
    (f <$> x).run = x.run.map fun p => (f p.1, p.2) := by
  show (x >>= fun b => pure (f b)).run = _
  rw [run_bind]
  cases x.run with
  | error e => rfl
  | ok p => simp [Except.map]

@[simp] theorem run_liftM (x : Except Fault β) :
    (liftM x : Checking β).run = x.map fun b => (b, []) := by
  cases x with
  | error e => rfl
  | ok b => rfl

instance : LawfulMonad Checking := LawfulMonad.mk' Checking
  (fun x => by
    ext1
    rw [show (id <$> x) = x >>= fun b => pure (id b) from rfl, run_bind]
    cases x.run with
    | error e => rfl
    | ok p => simp [Except.map])
  (fun b f => by
    ext1
    rw [run_bind, run_pure]
    dsimp only
    cases (f b).run with
    | error e => rfl
    | ok p => simp [Except.map])
  (fun x f g => by
    ext1
    simp only [run_bind]
    cases x.run with
    | error e => rfl
    | ok p =>
      obtain ⟨b, ps⟩ := p
      dsimp only
      cases (f b).run with
      | error e => rfl
      | ok q =>
        obtain ⟨c, qs⟩ := q
        dsimp only [Except.map]
        cases (g c).run with
        | error e => rfl
        | ok r => simp)

@[simp] theorem run_flag (path message : String) :
    (flag path message).run = .ok ((), [⟨message, path⟩]) := rfl

@[simp] theorem liftM_ok (b : β) : (liftM (Except.ok b : Except Fault β) : Checking β) = pure b :=
  rfl

@[simp] theorem liftM_error (e : Fault) :
    (liftM (Except.error e : Except Fault β) : Checking β) = ⟨.error e⟩ := rfl

theorem map_liftM (f : β → γ) (x : Except Fault β) :
    f <$> (liftM x : Checking β) = liftM (f <$> x) := by
  cases x with
  | error e => rfl
  | ok b => rfl

/-- A computation that can only fault, bound into a check, runs before the check. -/
theorem lifted_bind (x : Except Fault β) (f : β → Checking γ) :
    (liftM x : Checking β) >>= f = match x with
      | .error e => ⟨.error e⟩
      | .ok b => f b := by
  cases x with
  | error e => rfl
  | ok b => simp

/-! ### Finding nothing, and faulting -/

theorem map_eq_ok_nil {x : Except Fault (β × List Problem)} {ps : List Problem} {r : β} :
    (x.map fun p => (p.1, ps ++ p.2)) = .ok (r, []) ↔ ps = [] ∧ x = .ok (r, []) := by
  cases x with
  | error e => simp [Except.map]
  | ok p =>
    obtain ⟨b, qs⟩ := p
    simp only [Except.map, Except.ok.injEq, Prod.mk.injEq, List.append_eq_nil_iff]
    constructor
    · rintro ⟨rfl, rfl, rfl⟩
      exact ⟨rfl, rfl, rfl⟩
    · rintro ⟨rfl, rfl, rfl⟩
      exact ⟨rfl, rfl, rfl⟩

/-- Two checks in a row find nothing exactly when each finds nothing. -/
theorem bind_eq_ok_nil {x : Checking β} {f : β → Checking γ} {r : γ} :
    (x >>= f).run = .ok (r, []) ↔ ∃ b, x.run = .ok (b, []) ∧ (f b).run = .ok (r, []) := by
  rw [run_bind]
  cases x.run with
  | error e => simp
  | ok p =>
    obtain ⟨b, ps⟩ := p
    simp only [map_eq_ok_nil, Except.ok.injEq, Prod.mk.injEq]
    constructor
    · rintro ⟨rfl, h⟩
      exact ⟨b, ⟨rfl, rfl⟩, h⟩
    · rintro ⟨b', ⟨rfl, rfl⟩, hf⟩
      exact ⟨rfl, hf⟩

@[simp] theorem run_flagIf (c : Bool) (path message : String) :
    (flagIf c path message).run = .ok ((), if c then [⟨message, path⟩] else []) := by
  cases c <;> rfl

/-- A check after a flag finds at least that problem. -/
theorem flag_bind_ne_ok_nil (path message : String) (f : Unit → Checking β) (r : β) :
    (flag path message >>= f).run ≠ .ok (r, []) := by
  intro h
  obtain ⟨_, hflag, -⟩ := bind_eq_ok_nil.mp h
  simp at hflag

/-- Two checks in a row fault exactly when the first faults, or the second does after the
first ran. -/
theorem bind_eq_error {x : Checking β} {f : β → Checking γ} {e : Fault} :
    (x >>= f).run = .error e ↔
      x.run = .error e ∨ ∃ b ps, x.run = .ok (b, ps) ∧ (f b).run = .error e := by
  rw [run_bind]
  cases x.run with
  | error e' => simp
  | ok p =>
    obtain ⟨b, ps⟩ := p
    have hmap : ∀ y : Except Fault (γ × List Problem),
        (y.map fun p => (p.1, ps ++ p.2)) = .error e ↔ y = .error e := by
      intro y
      cases y <;> simp [Except.map]
    simpa using hmap (f b).run

/-! ### Loops -/

/-- A loop whose every step goes on finds nothing exactly when no step finds anything. -/
theorem forIn_eq_ok_nil {ks : List κ} {f : κ → Unit → Checking (ForInStep Unit)}
    (hf : ∀ k s ps, (f k ()).run = .ok (s, ps) → s = .yield ()) :
    (forIn ks () f).run = .ok ((), []) ↔ ∀ k ∈ ks, (f k ()).run = .ok (.yield (), []) := by
  induction ks with
  | nil => simp
  | cons k ks ih =>
    rw [List.forIn_cons, bind_eq_ok_nil, List.forall_mem_cons]
    constructor
    · rintro ⟨s, hk, hrest⟩
      obtain rfl := hf k s [] hk
      exact ⟨hk, ih.mp hrest⟩
    · rintro ⟨hk, hrest⟩
      exact ⟨_, hk, ih.mpr hrest⟩

/-- A loop whose every step goes on faults only where a step faults. -/
theorem forIn_eq_error {ks : List κ} {f : κ → Unit → Checking (ForInStep Unit)} {e : Fault}
    (hf : ∀ k s ps, (f k ()).run = .ok (s, ps) → s = .yield ()) :
    (forIn ks () f).run = .error e → ∃ k ∈ ks, (f k ()).run = .error e := by
  induction ks with
  | nil => simp
  | cons k ks ih =>
    rw [List.forIn_cons, bind_eq_error]
    rintro (hk | ⟨s, ps, hk, hrest⟩)
    · exact ⟨k, List.mem_cons_self, hk⟩
    · obtain rfl := hf k s ps hk
      obtain ⟨k', hk', he⟩ := ih hrest
      exact ⟨k', List.mem_cons_of_mem k hk', he⟩

/-! ### Keeping results -/

/-- Keeping the results of checks that give one whenever they find nothing: the whole finds
nothing exactly when each check finds nothing, and then every check gives its result. -/
theorem filterMapM_eq_ok_nil {es : List κ} {g : κ → Checking (Option β)} {ts : List β}
    (hg : ∀ e, (g e).run ≠ .ok (none, [])) :
    (es.filterMapM g).run = .ok (ts, []) ↔
      List.Forall₂ (fun e t => (g e).run = .ok (some t, [])) es ts := by
  induction es generalizing ts with
  | nil =>
    simp only [List.filterMapM_nil, run_pure, Except.ok.injEq, Prod.mk.injEq, and_true,
      List.forall₂_nil_left_iff]
    exact eq_comm
  | cons e es ih =>
    rw [List.filterMapM_cons, bind_eq_ok_nil]
    constructor
    · rintro ⟨o, he, hrest⟩
      cases o with
      | none => exact absurd he (hg e)
      | some t =>
        obtain ⟨ts', hts', hts⟩ := bind_eq_ok_nil.mp hrest
        simp only [run_pure, Except.ok.injEq, Prod.mk.injEq, and_true] at hts
        subst hts
        exact .cons he (ih.mp hts')
    · intro h
      cases h with
      | @cons _ t _ ts' he hrest =>
        refine ⟨some t, he, bind_eq_ok_nil.mpr ⟨ts', ih.mpr hrest, rfl⟩⟩

/-- Keeping results finds nothing only if each check finds nothing and gives a result. -/
theorem filterMapM_eq_ok_nil_mem {es : List κ} {g : κ → Checking (Option β)} {ts : List β}
    (hg : ∀ e, (g e).run ≠ .ok (none, [])) (h : (es.filterMapM g).run = .ok (ts, [])) :
    ∀ e ∈ es, ∃ t, (g e).run = .ok (some t, []) := by
  induction (filterMapM_eq_ok_nil hg).mp h with
  | nil => simp
  | @cons e t _ _ he hrest ih =>
    exact List.forall_mem_cons.mpr ⟨⟨t, he⟩, ih ((filterMapM_eq_ok_nil hg).mpr hrest)⟩

/-- Keeping results faults only where a check faults. -/
theorem filterMapM_eq_error {es : List κ} {g : κ → Checking (Option β)} {e : Fault}
    (h : (es.filterMapM g).run = .error e) : ∃ a ∈ es, (g a).run = .error e := by
  induction es with
  | nil => cases h
  | cons a es ih =>
    rw [List.filterMapM_cons] at h
    rcases bind_eq_error.mp h with ha | ⟨o, ps, -, h⟩
    · exact ⟨a, List.mem_cons_self, ha⟩
    -- the rest faulted, whether this check gave a result or not
    have hrest : (es.filterMapM g).run = .error e := by
      cases o with
      | none => exact h
      | some t =>
        rcases bind_eq_error.mp h with hrest | ⟨_, _, -, hpure⟩
        · exact hrest
        · cases hpure
    obtain ⟨a', ha', hf⟩ := ih hrest
    exact ⟨a', List.mem_cons_of_mem a ha', hf⟩

/-- Checks that each give the result of a computation that can only fault, kept together, give
the results of those computations in order. -/
theorem filterMapM_eq_liftM {es : List κ} {g : κ → Checking (Option β)}
    {r : κ → Except Fault β} (hg : ∀ e ∈ es, g e = liftM ((r e).map some)) :
    es.filterMapM g = liftM (es.mapM r) := by
  induction es with
  | nil => rfl
  | cons e es ih =>
    rw [List.filterMapM_cons, hg e List.mem_cons_self,
      ih fun e' he' => hg e' (List.mem_cons_of_mem e he'), List.mapM_cons]
    ext1
    cases r e with
    | error f => rfl
    | ok t =>
      cases es.mapM r with
      | error f => rfl
      | ok ts => rfl

end CiteForm.Checking

import CiteForm.Proofs.Suite.Schema
/-!
# Checking cases

The checks of a template's cases, each against the schema and the reading of the suite. For
every check three facts: a run that finds nothing shows the part conforms (`…_conforms`); on a
conforming part the check finds nothing and gives what reading gives, faulting where reading
faults (`…_eq_liftM`); and a fault is one of an integer too long, held by the part
(`…_eq_error`).

* `checkValues` — a case's values.
* `checkCase` — one case, given the names of the cases before it.
* `checkCases` — all cases of a template, their names distinct.
-/

namespace CiteForm.Suite

open Checking

/-! ### Scalars -/

theorem textOf_eq (x : Value) : textOf x = liftM x.text := by
  cases x with
  | scalar s => rfl
  | seq xs => rfl
  | map es => rfl

theorem isNull_eq_true {x : Value} : isNull x = true ↔ x = .scalar .null := by
  rcases x with ((_ | _ | _ | _ | _ | _ | _ | _) | _ | _) <;> simp [isNull, Value.level]

theorem fieldText?_of_isText {x : Value} (hx : x.IsText) : fieldText? x = liftM (some <$> x.text) := by
  rcases x with ((_ | _ | n | f | s | _ | _ | _) | _ | _) <;> simp [Value.IsText] at hx <;>
    simp only [fieldText?, Value.document_level, Value.level, Value.text, map_liftM]
  rfl

theorem fieldText?_of_not_isText {x : Value} (hx : ¬ x.IsText) : fieldText? x = pure none := by
  rcases x with ((_ | _ | n | f | s | _ | _ | _) | _ | _) <;> simp [Value.IsText] at hx <;> rfl

theorem caseName?_of_isName {x : Value} (hx : x.IsName) : caseName? x = liftM (some <$> x.text) := by
  rcases x with ((_ | b | n | _ | s | _ | _ | _) | _ | _) <;> simp [Value.IsName] at hx <;>
    simp only [caseName?, Value.document_level, Value.level, Value.text, map_liftM] <;> rfl

theorem caseName?_of_not_isName {x : Value} (hx : ¬ x.IsName) : caseName? x = pure none := by
  rcases x with ((_ | b | n | _ | s | _ | _ | _) | _ | _) <;> simp [Value.IsName] at hx <;> rfl

theorem fieldText?_eq_error {x : Value} {f : Fault} (h : (fieldText? x).run = .error f) :
    f = Scalar.overlong ∧ x.LongInt := by
  by_cases hx : x.IsText
  · rw [fieldText?_of_isText hx, run_liftM] at h
    exact Value.text_eq_error (Except.map_eq_error.mp (Except.map_eq_error.mp h))
  · rw [fieldText?_of_not_isText hx] at h
    cases h

theorem caseName?_eq_error {x : Value} {f : Fault} (h : (caseName? x).run = .error f) :
    f = Scalar.overlong ∧ x.LongInt := by
  by_cases hx : x.IsName
  · rw [caseName?_of_isName hx, run_liftM] at h
    exact Value.text_eq_error (Except.map_eq_error.mp (Except.map_eq_error.mp h))
  · rw [caseName?_of_not_isName hx] at h
    cases h

theorem textOf_eq_error {x : Value} {f : Fault} (h : (textOf x).run = .error f) :
    f = Scalar.overlong ∧ x.LongInt := by
  rw [textOf_eq, run_liftM] at h
  exact Value.text_eq_error (Except.map_eq_error.mp h)

/-! ### Unknown keys -/

section Keys

variable {es : List (Value × Value)} {known : List String} {p : String} {msg : String → String}

theorem unknownKeysLoop_yields (k : Value) {s : ForInStep PUnit} {ps : List Problem}
    (h : (do
      let t ← textOf k
      flag p (msg t)
      pure (ForInStep.yield PUnit.unit) : Checking (ForInStep PUnit)).run = .ok (s, ps)) :
    s = .yield () := by
  cases ht : (textOf k).run with
  | error e => simp [run_bind_of_error ht] at h
  | ok q =>
    obtain ⟨t, qs⟩ := q
    rw [run_bind_of_ok ht] at h
    simp [Except.map] at h
    exact h.1.symm

/-- The loop that flags every unknown key of a mapping finds nothing exactly when its keys are
strings among the known ones. -/
theorem unknownKeysLoop_eq_ok_nil :
    (forIn (unknownKeys es known) PUnit.unit fun k (_ : PUnit) => do
      let t ← textOf k
      flag p (msg t)
      pure (ForInStep.yield PUnit.unit)).run = .ok (PUnit.unit, []) ↔ KeysAmong es known := by
  rw [forIn_eq_ok_nil fun k _ _ => unknownKeysLoop_yields k, ← unknownKeys_eq_nil,
    List.eq_nil_iff_forall_not_mem]
  refine forall_congr' fun k => imp_congr_right fun _ => ?_
  -- every step flags the key it looks at, or faults
  simp only [iff_false]
  intro h
  obtain ⟨t, -, h⟩ := bind_eq_ok_nil.mp h
  exact flag_bind_ne_ok_nil _ _ _ _ h

/-- That loop faults only on a key that is an integer too long. -/
theorem unknownKeysLoop_eq_error {f : Fault}
    (h : (forIn (unknownKeys es known) PUnit.unit fun k (_ : PUnit) => do
      let t ← textOf k
      flag p (msg t)
      pure (ForInStep.yield PUnit.unit)).run = .error f) :
    f = Scalar.overlong ∧ (Value.map es).LongInt := by
  obtain ⟨k, hk, hstep⟩ := forIn_eq_error (fun k _ _ => unknownKeysLoop_yields k) h
  obtain ⟨v, hkv⟩ := mem_unknownKeys hk
  rcases bind_eq_error.mp hstep with htext | ⟨t, ps, -, hflag⟩
  · exact (textOf_eq_error htext).imp_right (.key hkv)
  · simp [Except.map] at hflag

end Keys

/-! ### Values -/

section Values

variable {tname path : String} {i : Nat}

/-- The values after the first `j` of a case, `acc` holding those before in reverse, when every
one is null, a string or a number: checking them finds nothing and gives what reading gives. -/
theorem checkValues_go_eq_liftM {xs : List Value} {j : Nat} {acc : List (Option String)}
    (h : ∀ x ∈ xs, x = .scalar .null ∨ x.IsText) :
    checkValues.go tname i path xs j acc =
      liftM ((xs.mapM readValue).map fun vs => some (acc.reverse ++ vs)) := by
  induction xs generalizing j acc with
  | nil => simp [checkValues.go, Except.map]
  | cons x rest ih =>
    have hrest : ∀ y ∈ rest, y = .scalar .null ∨ y.IsText := fun y hy =>
      h y (List.mem_cons_of_mem x hy)
    rw [checkValues.go.eq_2]
    rcases h x List.mem_cons_self with rfl | hx
    · -- a null value is kept as unset
      rw [if_pos (isNull_eq_true.mpr rfl), ih hrest]
      simp only [List.mapM_cons, readValue, Except.ok_bind]
      cases rest.mapM readValue <;> simp [Except.map]
    · have hnull : isNull x = false := by
        cases hx' : isNull x
        · rfl
        · rw [isNull_eq_true.mp hx'] at hx
          exact absurd hx id
      rw [if_neg (by simp [hnull]), fieldText?_of_isText hx, lifted_bind]
      have hread : readValue x = some <$> x.text := by
        rcases x with ((_ | _ | _ | _ | _ | _ | _ | _) | _ | _) <;> simp_all [readValue, Value.IsText]
      cases ht : x.text with
      | error e => simp [hread, ht, Except.map]
      | ok t =>
        simp only [hread, ht, Except.map_ok, ih hrest, List.mapM_cons, Except.ok_bind]
        cases rest.mapM readValue <;> simp [Except.map]

theorem checkValues_go_conforms {xs : List Value} {j : Nat} {acc : List (Option String)}
    {r : Option (List (Option String))} (h : (checkValues.go tname i path xs j acc).run = .ok (r, [])) :
    ∀ x ∈ xs, x = .scalar .null ∨ x.IsText := by
  induction xs generalizing j acc with
  | nil => simp
  | cons x rest ih =>
    rw [checkValues.go.eq_2] at h
    split at h
    · next hnull =>
      rw [List.forall_mem_cons]
      exact ⟨.inl (isNull_eq_true.mp hnull), ih h⟩
    · -- a value that is not null must have a text, or the check flags it
      obtain ⟨o, ho, hk⟩ := bind_eq_ok_nil.mp h
      by_cases hx : x.IsText
      · rw [fieldText?_of_isText hx, run_liftM] at ho
        cases ht : x.text with
        | error e => simp [ht, Except.map] at ho
        | ok t =>
          simp only [ht, Except.map_ok, Except.map, Except.ok.injEq, Prod.mk.injEq, and_true] at ho
          subst ho
          exact List.forall_mem_cons.mpr ⟨.inr hx, ih hk⟩
      · rw [fieldText?_of_not_isText hx, run_pure] at ho
        simp only [Except.ok.injEq, Prod.mk.injEq, and_true] at ho
        subst ho
        exact absurd hk (flag_bind_ne_ok_nil _ _ _ _)

theorem checkValues_go_eq_error {xs : List Value} {j : Nat} {acc : List (Option String)} {f : Fault}
    (h : (checkValues.go tname i path xs j acc).run = .error f) :
    f = Scalar.overlong ∧ ∃ x ∈ xs, x.LongInt := by
  induction xs generalizing j acc with
  | nil => simp [checkValues.go] at h
  | cons x rest ih =>
    rw [checkValues.go.eq_2] at h
    split at h
    · exact (ih h).imp_right fun ⟨y, hy, hl⟩ => ⟨y, List.mem_cons_of_mem x hy, hl⟩
    · rcases bind_eq_error.mp h with hx | ⟨o, ps, -, hk⟩
      · exact (fieldText?_eq_error hx).imp_right fun hl => ⟨x, List.mem_cons_self, hl⟩
      · cases o with
        | some t => exact (ih hk).imp_right fun ⟨y, hy, hl⟩ => ⟨y, List.mem_cons_of_mem x hy, hl⟩
        | none => simp [Except.map] at hk

/-- Checking a case's values finds nothing exactly on values that conform. -/
theorem checkValues_conforms {v : Option Value} {r : Option (List (Option String))}
    (h : (checkValues tname i path v).run = .ok (r, [])) : ValuesConform v := by
  unfold checkValues at h
  split at h
  · trivial
  · next v =>
    simp only [Value.document_level] at h
    cases v with
    | seq xs => exact checkValues_go_conforms h
    | _ => exact absurd h (flag_bind_ne_ok_nil _ _ _ _)

theorem checkValues_eq_liftM {v : Option Value} (h : ValuesConform v) :
    checkValues tname i path v = liftM ((readValues v).map some) := by
  unfold checkValues
  split
  · simp [readValues, Except.map]
  · next v =>
    cases v with
    | seq xs =>
      rw [Value.document_level]
      simp only [Value.level]
      rw [checkValues_go_eq_liftM h]
      simp [readValues]
    | _ => exact absurd h id

theorem checkValues_eq_error {v : Option Value} {f : Fault}
    (h : (checkValues tname i path v).run = .error f) :
    f = Scalar.overlong ∧ ∃ x, v = some x ∧ x.LongInt := by
  unfold checkValues at h
  split at h
  · cases h
  · next v =>
    simp only [Value.document_level] at h
    cases v with
    | seq xs =>
      obtain ⟨rfl, x, hx, hl⟩ := checkValues_go_eq_error h
      exact ⟨rfl, _, rfl, .seq hx hl⟩
    | _ => simp [Value.level, Except.map] at h

end Values

/-! ### Names and wanted citations -/

section Steps

variable {i : Nat}

theorem nameOf_eq_liftM {v : Option Value} (h : ∀ x, v = some x → x.IsName) :
    nameOf i v = liftM (some <$> readName i v) := by
  cases v with
  | none => rfl
  | some x => exact caseName?_of_isName (h x rfl)

theorem nameOf_isName {v : Option Value} {t : String} {ps : List Problem}
    (h : (nameOf i v).run = .ok (some t, ps)) : ∀ x, v = some x → x.IsName := by
  rintro x rfl
  by_contra hx
  simp [nameOf, caseName?_of_not_isName hx] at h

theorem nameOf_eq_error {v : Option Value} {f : Fault} (h : (nameOf i v).run = .error f) :
    f = Scalar.overlong ∧ ∃ x, v = some x ∧ x.LongInt := by
  cases v with
  | none => cases h
  | some x => exact (caseName?_eq_error h).imp_right fun hl => ⟨x, rfl, hl⟩

/-- The name read for a case is the name it goes by. -/
theorem readName_eq_caseName {es : List (Value × Value)} {t : String}
    (h : ∀ x, lookup es "name" = some x → x.IsName) (hn : readName i (lookup es "name") = .ok t) :
    t = caseName i (.map es) := by
  simp only [caseName]
  cases hl : lookup es "name" with
  | none =>
    rw [hl] at hn
    exact (Except.ok.inj hn).symm
  | some x =>
    rw [hl] at hn
    have hx := h x hl
    rcases x with ((_ | b | n | _ | s | _ | _ | _) | _ | _) <;> simp only [Value.IsName] at hx
    · exact (Except.ok.inj hn).symm
    · -- an integer is named by its digits
      simp only [readName, Value.text, Scalar.text] at hn
      split at hn
      · cases hn
      · exact (Except.ok.inj hn).symm
    · exact (Except.ok.inj hn).symm

theorem wantOf_eq_liftM {v : Option Value} (h : ∃ x, v = some x ∧ x.IsText) :
    wantOf v = liftM (some <$> readWant v) := by
  obtain ⟨x, rfl, hx⟩ := h
  exact fieldText?_of_isText hx

theorem wantOf_isText {v : Option Value} {w : String} {ps : List Problem}
    (h : (wantOf v).run = .ok (some w, ps)) : ∃ x, v = some x ∧ x.IsText := by
  cases v with
  | none => simp [wantOf] at h
  | some x =>
    refine ⟨x, rfl, ?_⟩
    by_contra hx
    simp [wantOf, fieldText?_of_not_isText hx] at h

theorem wantOf_eq_error {v : Option Value} {f : Fault} (h : (wantOf v).run = .error f) :
    f = Scalar.overlong ∧ ∃ x, v = some x ∧ x.LongInt := by
  cases v with
  | none => cases h
  | some x => exact (fieldText?_eq_error h).imp_right fun hl => ⟨x, rfl, hl⟩

end Steps

/-! ### A case -/

section Case

variable {tname path : String} {i : Nat} {seen : List String}

/-- A case that checks without a problem conforms, and its name is new. -/
theorem checkCase_conforms {c : Value} {r : Option Case} {seen' : List String}
    (h : (checkCase tname path i seen c).run = .ok ((r, seen'), [])) :
    CaseConforms c ∧ caseName i c ∉ seen := by
  cases c with
  | map es =>
    simp only [checkCase, Value.document_level, Value.level] at h
    obtain ⟨_, hkeys, h⟩ := bind_eq_ok_nil.mp h
    obtain ⟨name?, hname, h⟩ := bind_eq_ok_nil.mp h
    cases name? with
    | none => exact absurd h (flag_bind_ne_ok_nil _ _ _ _)
    | some cname =>
      obtain ⟨_, hdup, h⟩ := bind_eq_ok_nil.mp h
      obtain ⟨values, hvalues, h⟩ := bind_eq_ok_nil.mp h
      obtain ⟨want?, hwant, h⟩ := bind_eq_ok_nil.mp h
      cases want? with
      | none => exact absurd h (flag_bind_ne_ok_nil _ _ _ _)
      | some want =>
        have hnames := nameOf_isName hname
        refine ⟨⟨unknownKeysLoop_eq_ok_nil.mp hkeys, hnames, checkValues_conforms hvalues,
          wantOf_isText hwant⟩, ?_⟩
        -- the name read is the name the case goes by, and it was not seen before
        rw [nameOf_eq_liftM hnames, run_liftM] at hname
        have hread : readName i (lookup es "name") = .ok cname := by
          cases hr : readName i (lookup es "name") <;> simp_all [Except.map]
        rw [← readName_eq_caseName hnames hread]
        simpa using hdup
  | _ => simp [checkCase, Value.document_level, Value.level, Except.map] at h

/-- On a conforming case with a new name, checking finds nothing and gives the case read, with
its name seen. -/
theorem checkCase_eq_liftM {c : Value} (hc : CaseConforms c) (hseen : caseName i c ∉ seen) :
    checkCase tname path i seen c =
      liftM ((readCase i c).map fun out => (some out, out.name :: seen)) := by
  cases c with
  | map es =>
    obtain ⟨hkeys, hnames, hvalues, hwant⟩ := hc
    simp only [checkCase, Value.document_level, Value.level, unknownKeys_eq_nil.mpr hkeys,
      List.forIn_nil, pure_bind, nameOf_eq_liftM hnames, lifted_bind, readCase]
    cases hn : readName i (lookup es "name") with
    | error e => rfl
    | ok t =>
      rw [← readName_eq_caseName hnames hn] at hseen
      simp only [Except.map_ok, Except.ok_bind, show seen.contains t = false by simpa using hseen,
        flagIf, checkValues_eq_liftM hvalues, wantOf_eq_liftM hwant, lifted_bind]
      cases readValues (lookup es "values") <;> cases readWant (lookup es "want") <;> rfl
  | _ => exact absurd hc id

/-- A case that faults holds an integer too long to write. -/
theorem checkCase_eq_error {c : Value} {f : Fault}
    (h : (checkCase tname path i seen c).run = .error f) : f = Scalar.overlong ∧ c.LongInt := by
  cases c with
  | map es =>
    simp only [checkCase, Value.document_level, Value.level] at h
    rcases bind_eq_error.mp h with hkeys | ⟨_, _, -, h⟩
    · exact unknownKeysLoop_eq_error hkeys
    rcases bind_eq_error.mp h with hname | ⟨name?, _, -, h⟩
    · obtain ⟨rfl, x, hx, hl⟩ := nameOf_eq_error hname
      exact ⟨rfl, LongInt.of_lookup hx hl⟩
    cases name? with
    | none => simp [Except.map] at h
    | some cname =>
      rcases bind_eq_error.mp h with hdup | ⟨_, _, -, h⟩
      · simp at hdup
      rcases bind_eq_error.mp h with hvalues | ⟨values, _, -, h⟩
      · obtain ⟨rfl, x, hx, hl⟩ := checkValues_eq_error hvalues
        exact ⟨rfl, LongInt.of_lookup hx hl⟩
      rcases bind_eq_error.mp h with hwant | ⟨want?, _, -, h⟩
      · obtain ⟨rfl, x, hx, hl⟩ := wantOf_eq_error hwant
        exact ⟨rfl, LongInt.of_lookup hx hl⟩
      cases want? <;> simp [Except.map] at h
  | _ => simp [checkCase, Value.document_level, Value.level, Except.map] at h

/-- The case read goes by the name of the case. -/
theorem readCase_name {c : Value} {out : Case} (hc : CaseConforms c) (hr : readCase i c = .ok out) :
    out.name = caseName i c := by
  cases c with
  | map es =>
    simp only [readCase] at hr
    cases hn : readName i (lookup es "name") with
    | error e => simp [hn] at hr
    | ok t =>
      rw [← readName_eq_caseName hc.2.1 hn]
      cases hv : readValues (lookup es "values") <;> cases hw : readWant (lookup es "want") <;>
        simp [hn, hv, hw] at hr
      subst hr
      rfl
  | _ => exact absurd hc id

/-- A conforming case with a new name adds its name to those seen. -/
theorem checkCase_seen {c : Value} {r : Option Case} {seen' : List String} {ps : List Problem}
    (hc : CaseConforms c) (hseen : caseName i c ∉ seen)
    (h : (checkCase tname path i seen c).run = .ok ((r, seen'), ps)) :
    seen' = caseName i c :: seen := by
  rw [checkCase_eq_liftM hc hseen, run_liftM] at h
  cases hr : readCase i c with
  | error e => simp [hr, Except.map] at h
  | ok out =>
    simp only [hr, Except.map, Except.ok.injEq, Prod.mk.injEq] at h
    rw [← h.1.2, readCase_name hc hr]

end Case

/-! ### All cases of a template -/

section Cases

variable {tname path : String} {i : Nat}

theorem caseNames_cons (c : Value) (cs : List Value) (i : Nat) :
    caseNames (c :: cs) i = caseName i c :: caseNames cs (i + 1) := by
  simp [caseNames, List.zipIdx_cons]

theorem readCasesFrom_cons (c : Value) (cs : List Value) (i : Nat) :
    readCasesFrom (c :: cs) i =
      readCase i c >>= fun out => readCasesFrom cs (i + 1) >>= fun outs => pure (out :: outs) := by
  simp [readCasesFrom, List.zipIdx_cons, List.mapM_cons]

/-- The cases from case `i` on check without a problem only if each conforms and their names
are distinct, and distinct from those seen before. -/
theorem checkCases_go_conforms {cs : List Value} {seen : List String} {acc r : List Case}
    (h : (checkCases.go tname path cs i seen acc).run = .ok (r, [])) :
    (∀ c ∈ cs, CaseConforms c) ∧ (caseNames cs i).Nodup ∧
      ∀ n ∈ caseNames cs i, n ∉ seen := by
  induction cs generalizing i seen acc with
  | nil => simp [caseNames]
  | cons c rest ih =>
    rw [checkCases.go.eq_2] at h
    obtain ⟨⟨o, seen'⟩, hc, hrest⟩ := bind_eq_ok_nil.mp h
    obtain ⟨hcase, hnew⟩ := checkCase_conforms hc
    obtain rfl := checkCase_seen hcase hnew hc
    obtain ⟨hcs, hnd, hfresh⟩ := ih hrest
    simp only [caseNames_cons, List.nodup_cons, List.forall_mem_cons]
    refine ⟨⟨hcase, hcs⟩, ⟨fun hmem => hfresh _ hmem List.mem_cons_self, hnd⟩, hnew, ?_⟩
    exact fun n hn hs => hfresh n hn (List.mem_cons_of_mem _ hs)

/-- On conforming cases with distinct new names, checking from case `i` on gives the cases read
after those kept so far. -/
theorem checkCases_go_eq_liftM {cs : List Value} {seen : List String} {acc : List Case}
    (hcs : ∀ c ∈ cs, CaseConforms c) (hnd : (caseNames cs i).Nodup)
    (hfresh : ∀ n ∈ caseNames cs i, n ∉ seen) :
    checkCases.go tname path cs i seen acc =
      liftM ((readCasesFrom cs i).map fun outs => acc.reverse ++ outs) := by
  induction cs generalizing i seen acc with
  | nil => simp [checkCases.go, readCasesFrom, Except.map]
  | cons c rest ih =>
    rw [caseNames_cons, List.nodup_cons] at hnd
    rw [caseNames_cons, List.forall_mem_cons] at hfresh
    rw [List.forall_mem_cons] at hcs
    rw [checkCases.go.eq_2, checkCase_eq_liftM hcs.1 hfresh.1, lifted_bind, readCasesFrom_cons]
    cases hr : readCase i c with
    | error e => rfl
    | ok out =>
      have hname := readCase_name hcs.1 hr
      -- the name of this case joins those the rest must avoid
      have hfresh' : ∀ n ∈ caseNames rest (i + 1), n ∉ out.name :: seen := by
        intro n hn hs
        rcases List.mem_cons.mp hs with rfl | hs
        · exact hnd.1 (hname ▸ hn)
        · exact hfresh.2 n hn hs
      simp only [Except.map, Except.ok_bind]
      rw [ih hcs.2 hnd.2 hfresh']
      cases readCasesFrom rest (i + 1) <;> simp [Except.map]

theorem checkCases_go_eq_error {cs : List Value} {seen : List String} {acc : List Case}
    {f : Fault} (h : (checkCases.go tname path cs i seen acc).run = .error f) :
    f = Scalar.overlong ∧ ∃ c ∈ cs, c.LongInt := by
  induction cs generalizing i seen acc with
  | nil => simp [checkCases.go] at h
  | cons c rest ih =>
    rw [checkCases.go.eq_2] at h
    rcases bind_eq_error.mp h with hc | ⟨⟨o, seen'⟩, ps, -, hrest⟩
    · exact (checkCase_eq_error hc).imp_right fun hl => ⟨c, List.mem_cons_self, hl⟩
    · exact (ih hrest).imp_right fun ⟨d, hd, hl⟩ => ⟨d, List.mem_cons_of_mem c hd, hl⟩

/-- Checking a template's cases finds nothing exactly on cases that conform. -/
theorem checkCases_conforms {v : Option Value} {r : List Case}
    (h : (checkCases tname v).run = .ok (r, [])) : CasesConform v := by
  cases v with
  | none => trivial
  | some x =>
    cases x with
    | seq cs =>
      simp only [checkCases, Value.document_level, Value.level] at h
      obtain ⟨hcs, hnd, -⟩ := checkCases_go_conforms h
      exact ⟨hcs, hnd⟩
    | scalar s =>
      cases s
      case null => trivial
      all_goals exact absurd h (flag_bind_ne_ok_nil _ _ _ _)
    | map es => exact absurd h (flag_bind_ne_ok_nil _ _ _ _)

theorem checkCases_eq_liftM {v : Option Value} (h : CasesConform v) :
    checkCases tname v = liftM (readCases v) := by
  cases v with
  | none => rfl
  | some x =>
    cases x with
    | seq cs =>
      simp only [checkCases, Value.document_level, Value.level, readCases]
      rw [checkCases_go_eq_liftM h.1 h.2 fun _ _ => List.not_mem_nil]
      cases readCasesFrom cs 0 <;> rfl
    | scalar s =>
      cases s
      case null => rfl
      all_goals exact absurd h id
    | map es => exact absurd h id

theorem checkCases_eq_error {v : Option Value} {f : Fault}
    (h : (checkCases tname v).run = .error f) :
    f = Scalar.overlong ∧ ∃ x, v = some x ∧ x.LongInt := by
  cases v with
  | none => cases h
  | some x =>
    cases x with
    | seq cs =>
      simp only [checkCases, Value.document_level, Value.level] at h
      obtain ⟨rfl, c, hc, hl⟩ := checkCases_go_eq_error h
      exact ⟨rfl, _, rfl, .seq hc hl⟩
    | scalar s => cases s <;> simp [checkCases, Value.level, Except.map] at h
    | map es => simp [checkCases, Value.level, Except.map] at h

end Cases

end CiteForm.Suite

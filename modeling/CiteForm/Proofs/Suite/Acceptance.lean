import CiteForm.Proofs.Suite.Cases
/-!
# Accepting a suite document

The validator accepts exactly the documents that conform to the schema, and the suite it gives
is the suite the document describes: nothing of the document is lost on the way. The one way
out of this is a fault. An integer too long to write out stops the check, even in a document
that conforms.

Each check of a template and of the top mapping comes with the three facts `Cases` proves for
cases. A run that finds nothing shows its part conforms. On a conforming part the check is the
reading of the part. A fault comes from an integer too long, held by the part. The three meet in
`ofDocument_accepts_schema`.

* `checkTemplate_conforms`, `checkTemplate_eq_liftM`, `checkTemplate_eq_error` — one template.
* `checkTop_conforms`, `checkTop_eq_liftM`, `checkTop_eq_error` — the top mapping.
* `ofDocument_accepts_schema` — acceptance is conformance, and the suite is the one read.
-/

namespace CiteForm.Suite

open Checking

/-! ### The parts of a template -/

section Parts

variable {tname path : String} {v : Option Value}

theorem checkSpec_eq_pure (h : ∀ x, v = some x → x = .scalar .null ∨ x.IsStr) :
    checkSpec tname path v = pure (readSpec v) := by
  rcases v with _ | x
  · rfl
  · rcases h x rfl with rfl | hx
    · rfl
    · obtain ⟨s, rfl⟩ := Value.isStr_iff.mp hx
      rfl

theorem checkSpec_conforms {r : Option String} (h : (checkSpec tname path v).run = .ok (r, [])) :
    ∀ x, v = some x → x = .scalar .null ∨ x.IsStr := by
  rintro x rfl
  rcases x with ((_ | _ | _ | _ | _ | _ | _ | _) | _ | _) <;>
    simp [checkSpec, Value.level, Value.IsStr, Except.map] at h ⊢

theorem checkSpec_ne_error {f : Fault} : (checkSpec tname path v).run ≠ .error f := by
  rcases v with _ | ((_ | _ | _ | _ | _ | _ | _ | _) | _ | _) <;>
    simp [checkSpec, Value.level, Except.map]

theorem checkArgs_eq_pure {spec : Option String}
    (h : ∀ x, v = some x → x = .scalar .null ∨ ∃ xs, x = .seq xs ∧ ∀ a ∈ xs, a.IsStr) :
    checkArgs tname path spec v = pure (readArgs spec v) := by
  rcases v with _ | x
  · rfl
  · rcases h x rfl with rfl | ⟨xs, rfl, hxs⟩
    · rfl
    · -- a list of strings: its members are the labels
      have hstr : ∀ a ∈ xs, ∃ s, a = .scalar (.str s) := fun a ha =>
        Value.isStr_iff.mp (hxs a ha)
      simp only [checkArgs, isNull, Value.document_level, Value.level, Bool.false_eq_true,
        ↓reduceIte]
      rw [List.mapM_eq_some_filterMap fun a ha => by obtain ⟨s, rfl⟩ := hstr a ha; rfl]
      simp only [readArgs]
      congr 1
      exact List.filterMap_congr fun a ha => by obtain ⟨s, rfl⟩ := hstr a ha; rfl

theorem checkArgs_conforms {spec : Option String} {r : List String}
    (h : (checkArgs tname path spec v).run = .ok (r, [])) :
    ∀ x, v = some x → x = .scalar .null ∨ ∃ xs, x = .seq xs ∧ ∀ a ∈ xs, a.IsStr := by
  rintro x rfl
  rcases x with (s | xs | es)
  · cases s
    case null => exact .inl rfl
    all_goals exact absurd h (flag_bind_ne_ok_nil _ _ _ _)
  · refine .inr ⟨xs, rfl, fun a ha => ?_⟩
    simp only [checkArgs, isNull, Value.document_level, Value.level, Bool.false_eq_true,
      ↓reduceIte] at h
    split at h
    · next ss hss =>
      have hs := List.isSome_of_mapM_eq_some hss a ha
      rcases a with ((_ | _ | _ | _ | s | _ | _ | _) | _ | _) <;> simp at hs
      exact trivial
    · exact absurd h (flag_bind_ne_ok_nil _ _ _ _)
  · exact absurd h (flag_bind_ne_ok_nil _ _ _ _)

theorem checkArgs_ne_error {spec : Option String} {f : Fault} :
    (checkArgs tname path spec v).run ≠ .error f := by
  rcases v with _ | ((_ | _ | _ | _ | _ | _ | _ | _) | xs | _) <;>
    simp [checkArgs, isNull, Value.level, Except.map]
  split <;> simp [Except.map]

end Parts

/-! ### Lint of a template -/

section Lint

variable {p : String} {msg : Analysis.Issue → String}

theorem lintLoop_yields (i : Analysis.Issue) {s : ForInStep PUnit} {ps : List Problem}
    (h : (do
      flagIf (!i.isWarning) p (msg i)
      pure (ForInStep.yield PUnit.unit) : Checking (ForInStep PUnit)).run = .ok (s, ps)) :
    s = .yield () := by
  simp [Except.map] at h
  exact h.1.symm

/-- The loop that flags every issue of lint that is not a matter of style finds nothing exactly
when every issue is one. -/
theorem lintLoop_eq_ok_nil {is : List Analysis.Issue} :
    (forIn is PUnit.unit fun (i : Analysis.Issue) (_ : PUnit) => do
      flagIf (!i.isWarning) p (msg i)
      pure (ForInStep.yield PUnit.unit)).run = .ok (PUnit.unit, []) ↔
      ∀ i ∈ is, i.isWarning = true := by
  rw [forIn_eq_ok_nil fun i _ _ => lintLoop_yields i]
  refine forall₂_congr fun i _ => ?_
  cases i.isWarning <;> simp [Except.map]

theorem lintLoop_eq_pure {is : List Analysis.Issue} (h : ∀ i ∈ is, i.isWarning = true) :
    (forIn is PUnit.unit fun (i : Analysis.Issue) (_ : PUnit) => do
      flagIf (!i.isWarning) p (msg i)
      pure (ForInStep.yield PUnit.unit) : Checking PUnit) = pure PUnit.unit := by
  ext1
  exact lintLoop_eq_ok_nil.mpr h

theorem lintLoop_ne_error {is : List Analysis.Issue} {f : Fault} :
    (forIn is PUnit.unit fun (i : Analysis.Issue) (_ : PUnit) => do
      flagIf (!i.isWarning) p (msg i)
      pure (ForInStep.yield PUnit.unit)).run ≠ .error f := by
  intro h
  obtain ⟨i, -, hi⟩ := forIn_eq_error (fun i _ _ => lintLoop_yields i) h
  simp [Except.map] at hi

end Lint

/-! ### A template -/

section Template

variable {tname : String}

/-- A template that checks without a problem conforms. -/
theorem checkTemplate_conforms {cfg : Value} {r : Option Template}
    (h : (checkTemplate tname cfg).run = .ok (r, [])) : TemplateConforms cfg := by
  cases cfg with
  | map es =>
    simp only [checkTemplate, Value.document_level, Value.level] at h
    obtain ⟨_, hkeys, h⟩ := bind_eq_ok_nil.mp h
    split at h
    · next t ht =>
      obtain ⟨_, hlint, h⟩ := bind_eq_ok_nil.mp h
      obtain ⟨spec, hspec, h⟩ := bind_eq_ok_nil.mp h
      obtain ⟨args, hargs, h⟩ := bind_eq_ok_nil.mp h
      obtain ⟨cases, hcases, -⟩ := bind_eq_ok_nil.mp h
      -- the template field is the string the check went on with
      obtain ⟨x, hx, hxt⟩ := Option.map_eq_some_iff.mp ht
      rw [Value.document_level, Value.level_eq_scalar] at hxt
      subst hxt
      exact ⟨unknownKeysLoop_eq_ok_nil.mp hkeys, ⟨t, hx, lintLoop_eq_ok_nil.mp hlint⟩,
        checkSpec_conforms hspec, checkArgs_conforms hargs, checkCases_conforms hcases⟩
    · exact absurd h (flag_bind_ne_ok_nil _ _ _ _)
  | _ => exact absurd h (flag_bind_ne_ok_nil _ _ _ _)

/-- On a conforming template, checking is reading. -/
theorem checkTemplate_eq_liftM {cfg : Value} (hc : TemplateConforms cfg) :
    checkTemplate tname cfg = liftM ((readTemplate tname cfg).map some) := by
  cases cfg with
  | map es =>
    obtain ⟨hkeys, ⟨t, ht, hlint⟩, hspec, hargs, hcases⟩ := hc
    simp only [checkTemplate, Value.document_level, Value.level, unknownKeys_eq_nil.mpr hkeys,
      List.forIn_nil, pure_bind, ht, Option.map_some, lintLoop_eq_pure hlint,
      checkSpec_eq_pure hspec, checkArgs_eq_pure hargs, checkCases_eq_liftM hcases, lifted_bind,
      readTemplate, strField]
    cases readCases (lookup es "cases") <;> rfl
  | _ => exact absurd hc id

/-- A template that faults holds an integer too long to write. -/
theorem checkTemplate_eq_error {cfg : Value} {f : Fault}
    (h : (checkTemplate tname cfg).run = .error f) : f = Scalar.overlong ∧ cfg.LongInt := by
  cases cfg with
  | map es =>
    simp only [checkTemplate, Value.document_level, Value.level] at h
    rcases bind_eq_error.mp h with hkeys | ⟨_, _, -, h⟩
    · exact unknownKeysLoop_eq_error hkeys
    split at h
    · rcases bind_eq_error.mp h with hlint | ⟨_, _, -, h⟩
      · exact absurd hlint lintLoop_ne_error
      rcases bind_eq_error.mp h with hspec | ⟨_, _, -, h⟩
      · exact absurd hspec checkSpec_ne_error
      rcases bind_eq_error.mp h with hargs | ⟨_, _, -, h⟩
      · exact absurd hargs checkArgs_ne_error
      rcases bind_eq_error.mp h with hcases | ⟨_, _, -, h⟩
      · obtain ⟨rfl, x, hx, hl⟩ := checkCases_eq_error hcases
        exact ⟨rfl, LongInt.of_lookup hx hl⟩
      · cases h
    · simp [Except.map] at h
  | _ => simp [checkTemplate, Value.level, Except.map] at h

/-- A template is dropped only with a problem found. -/
theorem checkTemplate_ne_none (cfg : Value) : (checkTemplate tname cfg).run ≠ .ok (none, []) := by
  intro h
  cases cfg with
  | map es =>
    simp only [checkTemplate, Value.document_level, Value.level] at h
    obtain ⟨_, -, h⟩ := bind_eq_ok_nil.mp h
    split at h
    · obtain ⟨_, -, h⟩ := bind_eq_ok_nil.mp h
      obtain ⟨_, -, h⟩ := bind_eq_ok_nil.mp h
      obtain ⟨_, -, h⟩ := bind_eq_ok_nil.mp h
      obtain ⟨_, -, h⟩ := bind_eq_ok_nil.mp h
      cases h
    · exact flag_bind_ne_ok_nil _ _ _ _ h
  | _ => exact flag_bind_ne_ok_nil _ _ _ _ h

end Template

/-! ### The fields of the top mapping -/

section Fields

variable {v : Option Value}

theorem checkVersion_conforms {r : String} (h : (checkVersion v).run = .ok (r, [])) :
    v = some (.scalar (.str "1")) := by
  rcases v with _ | ((_ | _ | _ | _ | s | _ | _ | _) | _ | _) <;>
    simp [checkVersion, Value.level, Except.map] at h ⊢
  exact h.2

theorem checkVersion_one : checkVersion (some (Value.scalar (.str "1"))) = pure "1" := by
  simp [checkVersion, Value.level, flagIf]

theorem checkVersion_ne_error {f : Fault} : (checkVersion v).run ≠ .error f := by
  rcases v with _ | ((_ | _ | _ | _ | _ | _ | _ | _) | _ | _) <;>
    simp [checkVersion, Value.level, Except.map]

theorem checkName_conforms {r : String} (h : (checkName v).run = .ok (r, [])) :
    ∀ x, v = some x → x.IsStr := by
  rintro x rfl
  rcases x with ((_ | _ | _ | _ | _ | _ | _ | _) | _ | _) <;>
    simp [checkName, Value.level, Value.IsStr, Except.map] at h ⊢

theorem checkName_eq_pure (h : ∀ x, v = some x → x.IsStr) : checkName v = pure (strField v) := by
  rcases v with _ | x
  · rfl
  · obtain ⟨s, rfl⟩ := Value.isStr_iff.mp (h x rfl)
    rfl

theorem checkName_ne_error {f : Fault} : (checkName v).run ≠ .error f := by
  rcases v with _ | ((_ | _ | _ | _ | _ | _ | _ | _) | _ | _) <;>
    simp [checkName, Value.level, Except.map]

/-- The templates check without a problem only if they form a non-empty mapping of conforming
configurations. -/
theorem checkTemplates_conforms {r : List Template} (h : (checkTemplates v).run = .ok (r, [])) :
    ∃ tes, v = some (.map tes) ∧ tes ≠ [] ∧ ∀ e ∈ tes, TemplateConforms e.2 := by
  rcases v with _ | x
  · exact absurd h (flag_bind_ne_ok_nil _ _ _ _)
  cases x with
  | map tes =>
    simp only [checkTemplates, Value.document_level, Value.level, Level.isEmpty] at h
    cases hne : tes.isEmpty <;> simp only [hne, Bool.false_eq_true, ↓reduceIte] at h
    · -- every entry gave its template without a problem
      have hall := filterMapM_eq_ok_nil_mem (fun e he => by
        obtain ⟨k, cfg⟩ := e
        obtain ⟨_, -, hk⟩ := bind_eq_ok_nil.mp he
        exact checkTemplate_ne_none cfg hk) h
      refine ⟨tes, rfl, by simpa using hne, fun e he => ?_⟩
      obtain ⟨t, ht⟩ := hall e he
      obtain ⟨_, -, ht⟩ := bind_eq_ok_nil.mp ht
      exact checkTemplate_conforms ht
    · exact absurd h (flag_bind_ne_ok_nil _ _ _ _)
  | scalar s =>
    simp only [checkTemplates, Value.document_level, Value.level, Level.isEmpty] at h
    cases hs : s.isEmpty <;> simp only [hs, Bool.false_eq_true, ↓reduceIte] at h <;>
      exact absurd h (flag_bind_ne_ok_nil _ _ _ _)
  | seq xs =>
    simp only [checkTemplates, Value.document_level, Value.level, Level.isEmpty] at h
    cases hs : xs.isEmpty <;> simp only [hs, Bool.false_eq_true, ↓reduceIte] at h <;>
      exact absurd h (flag_bind_ne_ok_nil _ _ _ _)

theorem checkTemplates_eq_liftM
    (h : ∃ tes, v = some (.map tes) ∧ tes ≠ [] ∧ ∀ e ∈ tes, TemplateConforms e.2) :
    checkTemplates v = liftM (readTemplates v) := by
  obtain ⟨tes, rfl, hne, htes⟩ := h
  have hempty : tes.isEmpty = false := by simpa using hne
  simp only [checkTemplates, Value.document_level, Value.level, Level.isEmpty, hempty,
    Bool.false_eq_true, ↓reduceIte, readTemplates]
  refine filterMapM_eq_liftM fun e he => ?_
  obtain ⟨k, cfg⟩ := e
  simp only [textOf_eq, lifted_bind, readEntry]
  cases k.text with
  | error f => rfl
  | ok t => exact checkTemplate_eq_liftM (htes _ he)

theorem checkTemplates_eq_error {f : Fault} (h : (checkTemplates v).run = .error f) :
    f = Scalar.overlong ∧ ∃ x, v = some x ∧ x.LongInt := by
  rcases v with _ | x
  · simp [checkTemplates, Except.map] at h
  cases x with
  | map tes =>
    simp only [checkTemplates, Value.document_level, Value.level, Level.isEmpty] at h
    cases hne : tes.isEmpty <;> simp only [hne, Bool.false_eq_true, ↓reduceIte] at h
    · -- the entry that faulted holds the long integer, in its key or its configuration
      obtain ⟨⟨k, cfg⟩, he, hf⟩ := filterMapM_eq_error h
      rcases bind_eq_error.mp hf with hk | ⟨t, _, -, ht⟩
      · exact (textOf_eq_error hk).imp_right fun hl => ⟨_, rfl, .key he hl⟩
      · exact (checkTemplate_eq_error ht).imp_right fun hl => ⟨_, rfl, .val he hl⟩
    · simp [Except.map] at h
  | scalar s =>
    simp only [checkTemplates, Value.document_level, Value.level, Level.isEmpty] at h
    cases hs : s.isEmpty <;> simp [hs, Except.map] at h
  | seq xs =>
    simp only [checkTemplates, Value.document_level, Value.level, Level.isEmpty] at h
    cases hs : xs.isEmpty <;> simp [hs, Except.map] at h

end Fields

/-! ### The top mapping -/

section Top

variable {es : List (Value × Value)}

/-- A top mapping that checks without a problem conforms. -/
theorem checkTop_conforms {s : Suite} (h : (checkTop es).run = .ok (s, [])) :
    Conforms (.map es) := by
  unfold checkTop at h
  obtain ⟨_, hversion, h⟩ := bind_eq_ok_nil.mp h
  obtain ⟨_, hkeys, h⟩ := bind_eq_ok_nil.mp h
  obtain ⟨_, hname, h⟩ := bind_eq_ok_nil.mp h
  obtain ⟨_, htemplates, -⟩ := bind_eq_ok_nil.mp h
  exact ⟨unknownKeysLoop_eq_ok_nil.mp hkeys, checkVersion_conforms hversion,
    checkName_conforms hname, checkTemplates_conforms htemplates⟩

/-- On a conforming top mapping, checking is reading. -/
theorem checkTop_eq_liftM (h : Conforms (.map es)) : checkTop es = liftM (readSuite (.map es)) := by
  obtain ⟨hkeys, hversion, hname, htemplates⟩ := h
  simp only [checkTop, hversion, checkVersion_one, pure_bind, unknownKeys_eq_nil.mpr hkeys,
    List.forIn_nil, checkName_eq_pure hname, checkTemplates_eq_liftM htemplates, lifted_bind,
    readSuite, strField]
  cases readTemplates (lookup es "templates") <;> rfl

/-- A top mapping that faults holds an integer too long to write. -/
theorem checkTop_eq_error {f : Fault} (h : (checkTop es).run = .error f) :
    f = Scalar.overlong ∧ (Value.map es).LongInt := by
  unfold checkTop at h
  rcases bind_eq_error.mp h with hversion | ⟨_, _, -, h⟩
  · exact absurd hversion checkVersion_ne_error
  rcases bind_eq_error.mp h with hkeys | ⟨_, _, -, h⟩
  · exact unknownKeysLoop_eq_error hkeys
  rcases bind_eq_error.mp h with hname | ⟨_, _, -, h⟩
  · exact absurd hname checkName_ne_error
  rcases bind_eq_error.mp h with htemplates | ⟨_, _, -, h⟩
  · obtain ⟨rfl, x, hx, hl⟩ := checkTemplates_eq_error htemplates
    exact ⟨rfl, LongInt.of_lookup hx hl⟩
  · cases h

end Top

/-! ### Documents -/

section Document

variable {D : Value}

/-- On a conforming document, validation is reading, its fault a fault of reading. -/
theorem ofDocument_of_conforms (hc : Conforms D) :
    Suite.ofDocument D = (readSuite D).mapError .fault := by
  cases D with
  | map es =>
    simp only [Suite.ofDocument, Value.document_level, Value.level, checkTop_eq_liftM hc,
      run_liftM]
    cases readSuite (.map es) <;> rfl
  | _ => exact absurd hc id

theorem ofDocument_eq_ok_iff {s : Suite} :
    Suite.ofDocument D = .ok s ↔ Conforms D ∧ readSuite D = .ok s := by
  constructor
  · intro h
    have hc : Conforms D := by
      cases D with
      | map es =>
        simp only [Suite.ofDocument, Value.document_level, Value.level] at h
        split at h
        · next s' ps hrun =>
          split at h
          · next hps =>
            rw [List.isEmpty_iff] at hps
            subst hps
            exact checkTop_conforms hrun
          · cases h
        · cases h
      | _ => simp [Suite.ofDocument, Value.level] at h
    refine ⟨hc, ?_⟩
    rw [ofDocument_of_conforms hc] at h
    cases hr : readSuite D <;> simp_all [Except.mapError]
  · rintro ⟨hc, hr⟩
    rw [ofDocument_of_conforms hc, hr]
    rfl

theorem ofDocument_eq_error {e : SuiteError} (h : Suite.ofDocument D = .error e) :
    (¬ Conforms D ∧ ∃ p ps, e = .invalid (p :: ps)) ∨
      (e = .fault Scalar.overlong ∧ D.LongInt) := by
  cases D with
  | map es =>
    simp only [Suite.ofDocument, Value.document_level, Value.level] at h
    split at h
    · next s ps hrun =>
      split at h
      · cases h
      · next hps =>
        -- problems were found, so the document does not conform
        obtain ⟨p, ps', rfl⟩ := List.exists_cons_of_ne_nil (by simpa using hps)
        cases h
        refine .inl ⟨fun hc => ?_, p, ps', rfl⟩
        rw [checkTop_eq_liftM hc, run_liftM] at hrun
        cases hr : readSuite (.map es) <;> simp [hr, Except.map] at hrun
    · next f hrun =>
      cases h
      obtain ⟨rfl, hl⟩ := checkTop_eq_error hrun
      exact .inr ⟨rfl, hl⟩
  | _ =>
    simp only [Suite.ofDocument, Value.document_level, Value.level, Except.error.injEq] at h
    exact .inl ⟨id, _, _, h.symm⟩

/-- Validation accepts exactly the documents that conform to the schema, and gives the suite
the document describes. A conforming document is accepted unless it holds an integer too long
to write. A document is refused with at least one problem only when it does not conform;
otherwise the refusal is the fault of such an integer. -/
theorem ofDocument_accepts_schema (D : Value) :
    (∀ s, Suite.ofDocument D = .ok s ↔ Conforms D ∧ readSuite D = .ok s) ∧
    (Conforms D → ¬ D.LongInt → ∃ s, Suite.ofDocument D = .ok s) ∧
    (∀ e, Suite.ofDocument D = .error e →
      (¬ Conforms D ∧ ∃ p ps, e = .invalid (p :: ps)) ∨
        (e = .fault Scalar.overlong ∧ D.LongInt)) := by
  refine ⟨fun s => ofDocument_eq_ok_iff, fun hc hl => ?_, fun e => ofDocument_eq_error⟩
  -- reading faults only on a long integer
  cases hr : readSuite D with
  | error f => exact absurd (readSuite_eq_error hr).2 hl
  | ok s => exact ⟨s, ofDocument_eq_ok_iff.mpr ⟨hc, hr⟩⟩

/-- A suite of one template, `[%s]`, with one case, whose one value is the integer `n`. -/
def oneValueSuite (n : Int) : Value :=
  .map [(.scalar (.str "version"), .scalar (.str "1")),
    (.scalar (.str "templates"), .map [(.scalar (.str "t"), .map [
      (.scalar (.str "template"), .scalar (.str "[%s]")),
      (.scalar (.str "cases"), .seq [.map [
        (.scalar (.str "values"), .seq [.scalar (.int n)]),
        (.scalar (.str "want"), .scalar (.str "x"))]])])])]

theorem oneValueSuite_conforms (n : Int) : Conforms (oneValueSuite n) := by
  have hlint : ∀ i ∈ Analysis.lint "[%s]".toList, i.isWarning = true := by decide
  refine ⟨unknownKeys_eq_nil.mp rfl, rfl, (fun x hx => by cases hx), _, rfl, List.cons_ne_nil _ _,
    ?_⟩
  -- the one template
  simp only [List.mem_singleton, forall_eq]
  refine ⟨unknownKeys_eq_nil.mp rfl, ⟨"[%s]", rfl, hlint⟩, (fun x hx => by cases hx),
    (fun x hx => by cases hx), ?_, by simp [caseNames]⟩
  -- its one case
  simp only [List.mem_singleton, forall_eq]
  exact ⟨unknownKeys_eq_nil.mp rfl, (fun x hx => by cases hx),
    (by simp [lookup, Value.level, Level.isStr, ValuesConform, Value.IsText]), _, rfl, trivial⟩

/-- However well a suite conforms, a value too long to write out stops validation. -/
theorem ofDocument_oneValueSuite {n : Int} (h : Nat.pow 10 Decimal.digitLimit ≤ n.natAbs) :
    Suite.ofDocument (oneValueSuite n) = .error (.fault Scalar.overlong) := by
  rw [ofDocument_of_conforms (oneValueSuite_conforms n)]
  rw [Nat.pow_eq] at h
  simp [oneValueSuite, readSuite, readTemplates, readEntry, readTemplate, readCases,
    readCasesFrom, readCase, readName, readValues, readValue, readWant, lookup, Value.level,
    Level.isStr, Value.text, Scalar.text, h, Except.mapError]

/-- A document can conform and still not be accepted: the one value of its one case has 4335
digits, `0x` and 3600 `F`s in the document's text. -/
theorem ofDocument_long_value :
    Conforms (oneValueSuite ((Nat.pow 16 3600 - 1 : Nat) : Int)) ∧
      Suite.ofDocument (oneValueSuite ((Nat.pow 16 3600 - 1 : Nat) : Int)) =
        .error (.fault Scalar.overlong) :=
  ⟨oneValueSuite_conforms _, ofDocument_oneValueSuite (by decide +kernel)⟩

end Document

end CiteForm.Suite

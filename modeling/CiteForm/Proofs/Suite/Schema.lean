import CiteForm.Proofs.Suite.Checking
import CiteForm.Proofs.Template.Evaluation
/-!
# The suite schema

What a suite document must be, said of the document alone, and the suite it describes, read
straight off it.

A document conforms (`Suite.Conforms`) when it is a mapping with keys among `version`, `name`
and `templates`; its version is the string `1`; its name, if given, is a string; and its
templates form a non-empty mapping of conforming configurations. A configuration is a mapping
with keys among `template`, `spec`, `args` and `cases`; its template is a string on which lint
reports only matters of style; its spec is left out, null or a string; its arguments are left
out, null or a list of strings; its cases are left out, null, or a list of conforming cases
whose names are distinct. A case is a mapping with keys among `name`, `values` and `want`; its
name, if given, is a string, an integer or a boolean; its values are left out or a list of
nulls, strings and numbers; its wanted citation is a string or a number.

`Suite.readSuite` reads the suite: every template in order, named by its key, every case in
order, named by its name or its index, values and wanted citations as their text. Writing an
integer as text is the one thing that can fail: one of `Decimal.digitLimit` digits or more has
no text (`Value.LongInt`).

* `Suite.Conforms` — the schema.
* `Suite.readSuite` — the suite a document describes.
* `Suite.readSuite_eq_error` — reading fails only on an integer too long to write.
-/

namespace CiteForm

/-- The only fault of writing a scalar as text: an integer too long. -/
theorem Scalar.text_eq_error {s : Scalar} {f : Fault} (h : s.text = .error f) :
    f = overlong ∧ ∃ n : Int, s = .int n ∧ Nat.pow 10 Decimal.digitLimit ≤ n.natAbs := by
  cases s with
  | int n =>
    simp only [text] at h
    split at h
    · next hlong => exact ⟨(Except.error.inj h).symm, n, rfl, hlong⟩
    · cases h
  | _ => cases h

namespace Value

@[simp] theorem document_level (x : Value) : Document.level x = x.level := rfl

/-- `x` holds, somewhere, an integer of `Decimal.digitLimit` digits or more. -/
inductive LongInt : Value → Prop where
  | int {n : Int} : Nat.pow 10 Decimal.digitLimit ≤ n.natAbs → LongInt (.scalar (.int n))
  | seq {xs : List Value} {x : Value} : x ∈ xs → LongInt x → LongInt (.seq xs)
  | key {es : List (Value × Value)} {k v : Value} : (k, v) ∈ es → LongInt k → LongInt (.map es)
  | val {es : List (Value × Value)} {k v : Value} : (k, v) ∈ es → LongInt v → LongInt (.map es)

/-- The text of a value, as names are written: a scalar's text; a collection writes nothing. -/
def text : Value → Except Fault String
  | .scalar s => s.text
  | _ => .ok ""

theorem text_eq_error {x : Value} {f : Fault} (h : x.text = .error f) :
    f = Scalar.overlong ∧ x.LongInt := by
  cases x with
  | scalar s =>
    obtain ⟨rfl, n, rfl, hlong⟩ := Scalar.text_eq_error h
    exact ⟨rfl, .int hlong⟩
  | _ => cases h

/-- Whether a value is a string. -/
def IsStr : Value → Prop
  | .scalar (.str _) => True
  | _ => False

theorem level_eq_scalar {x : Value} {s : Scalar} : x.level = .scalar s ↔ x = .scalar s := by
  cases x <;> simp [level]

theorem isStr_iff {x : Value} : x.IsStr ↔ ∃ s, x = .scalar (.str s) := by
  rcases x with ((_ | _ | _ | _ | s | _ | _ | _) | _ | _) <;> simp [IsStr]

/-- Whether a value may name a case: a string, an integer or a boolean. -/
def IsName : Value → Prop
  | .scalar (.str _) | .scalar (.int _) | .scalar (.bool _) => True
  | _ => False

/-- Whether a value may be a field value or a wanted citation: a string or a number, and not a
boolean. -/
def IsText : Value → Prop
  | .scalar (.str _) | .scalar (.int _) | .scalar (.float _) => True
  | _ => False

end Value

namespace Suite

/-! ### Entries of a mapping -/

/-- The keys of a mapping are strings among `known`. -/
def KeysAmong (es : List (Value × Value)) (known : List String) : Prop :=
  ∀ e ∈ es, ∃ s ∈ known, e.1 = .scalar (.str s)

theorem lookup_mem {es : List (Value × Value)} {k : String} {v : Value} (h : lookup es k = some v) :
    ∃ key, (key, v) ∈ es := by
  obtain ⟨e, he, rfl⟩ := Option.map_eq_some_iff.mp h
  exact ⟨e.1, List.mem_of_find?_eq_some he⟩

theorem mem_unknownKeys {es : List (Value × Value)} {known : List String} {k : Value}
    (h : k ∈ unknownKeys es known) : ∃ v, (k, v) ∈ es := by
  obtain ⟨e, he, rfl⟩ := List.mem_map.mp (List.mem_filter.mp h).1
  exact ⟨e.2, he⟩

/-- A mapping has no unknown keys exactly when its keys are strings among the known ones. -/
theorem unknownKeys_eq_nil {es : List (Value × Value)} {known : List String} :
    unknownKeys es known = [] ↔ KeysAmong es known := by
  simp only [unknownKeys, List.filter_eq_nil_iff, List.mem_map, forall_exists_index, and_imp,
    forall_apply_eq_imp_iff₂, KeysAmong, Value.document_level]
  refine forall₂_congr fun e _ => ?_
  obtain ⟨k, v⟩ := e
  cases k with
  | scalar s =>
    cases s <;> simp [Value.level]
  | _ => simp [Value.level]

/-! ### The schema -/

/-- A case's values: left out, or a list of nulls, strings and numbers. -/
def ValuesConform : Option Value → Prop
  | none => True
  | some (.seq xs) => ∀ x ∈ xs, x = .scalar .null ∨ x.IsText
  | some _ => False

/-- A case of a template. -/
def CaseConforms : Value → Prop
  | .map es => KeysAmong es ["name", "values", "want"] ∧
      (∀ x, lookup es "name" = some x → x.IsName) ∧
      ValuesConform (lookup es "values") ∧
      ∃ x, lookup es "want" = some x ∧ x.IsText
  | _ => False

/-- The name case `i` goes by, written in full: its `name`, or its index. -/
def caseName (i : Nat) : Value → String
  | .map es =>
    match lookup es "name" with
    | some (.scalar (.str s)) => s
    | some (.scalar (.int n)) => toString n
    | some (.scalar (.bool b)) => if b then "True" else "False"
    | _ => toString i
  | _ => toString i

/-- The names of a list of cases, the first of them case `i`. -/
def caseNames (cs : List Value) (i : Nat) : List String :=
  (cs.zipIdx i).map fun p => caseName p.2 p.1

/-- A template's cases: left out or null, or a list of cases with distinct names. -/
def CasesConform : Option Value → Prop
  | none | some (.scalar .null) => True
  | some (.seq cs) => (∀ c ∈ cs, CaseConforms c) ∧ (caseNames cs 0).Nodup
  | some _ => False

/-- A template's configuration. -/
def TemplateConforms : Value → Prop
  | .map es => KeysAmong es ["template", "spec", "args", "cases"] ∧
      (∃ t, lookup es "template" = some (.scalar (.str t)) ∧
        ∀ i ∈ Analysis.lint t.toList, i.isWarning = true) ∧
      (∀ x, lookup es "spec" = some x → x = .scalar .null ∨ x.IsStr) ∧
      (∀ x, lookup es "args" = some x →
        x = .scalar .null ∨ ∃ xs, x = .seq xs ∧ ∀ a ∈ xs, a.IsStr) ∧
      CasesConform (lookup es "cases")
  | _ => False

/-- A suite document. -/
def Conforms : Value → Prop
  | .map es => KeysAmong es ["version", "name", "templates"] ∧
      lookup es "version" = some (.scalar (.str "1")) ∧
      (∀ x, lookup es "name" = some x → x.IsStr) ∧
      ∃ tes, lookup es "templates" = some (.map tes) ∧ tes ≠ [] ∧
        ∀ e ∈ tes, TemplateConforms e.2
  | _ => False

/-! ### Reading the suite off a document -/

/-- The text of a field that holds a string, or the empty text. -/
def strField : Option Value → String
  | some (.scalar (.str s)) => s
  | _ => ""

/-- A case's value: null stays unset; anything else is its text. -/
def readValue : Value → Except Fault (Option String)
  | .scalar .null => .ok none
  | x => some <$> x.text

/-- The name of case `i`: its `name` written out, or its index. -/
def readName (i : Nat) : Option Value → Except Fault String
  | some x => x.text
  | none => .ok (toString i)

/-- A case's values, none when left out. -/
def readValues : Option Value → Except Fault (List (Option String))
  | some (.seq xs) => xs.mapM readValue
  | _ => .ok []

/-- A case's wanted citation. -/
def readWant : Option Value → Except Fault String
  | some x => x.text
  | none => .ok ""

/-- Case `i` of a template. -/
def readCase (i : Nat) : Value → Except Fault Case
  | .map es => do
    let name ← readName i (lookup es "name")
    let values ← readValues (lookup es "values")
    let want ← readWant (lookup es "want")
    pure ⟨name, values, want⟩
  | _ => .ok ⟨toString i, [], ""⟩

/-- A template's cases, numbered from `i`. -/
def readCasesFrom (cs : List Value) (i : Nat) : Except Fault (List Case) :=
  (cs.zipIdx i).mapM fun p => readCase p.2 p.1

/-- A template's cases. -/
def readCases : Option Value → Except Fault (List Case)
  | some (.seq cs) => readCasesFrom cs 0
  | _ => .ok []

/-- A template's spec. -/
def readSpec : Option Value → Option String
  | some (.scalar (.str s)) => some s
  | _ => none

/-- A template's argument labels: its `args`, or else the labels of its spec. -/
def readArgs (spec : Option String) : Option Value → List String
  | some (.seq xs) => xs.filterMap fun x => match x with
    | .scalar (.str s) => some s
    | _ => none
  | _ => match spec with
    | some s => if s.isEmpty then [] else Analysis.extractLabels s
    | none => []

/-- The template of name `name`. -/
def readTemplate (name : String) : Value → Except Fault Template
  | .map es => do
    let spec := readSpec (lookup es "spec")
    let cases ← readCases (lookup es "cases")
    pure ⟨name, strField (lookup es "template"), readArgs spec (lookup es "args"), spec, cases⟩
  | _ => .ok ⟨name, "", [], none, []⟩

/-- The template at an entry of the templates mapping, named by its key. -/
def readEntry (e : Value × Value) : Except Fault Template := do
  readTemplate (← e.1.text) e.2

/-- The templates of a suite. -/
def readTemplates : Option Value → Except Fault (List Template)
  | some (.map tes) => tes.mapM readEntry
  | _ => .ok []

/-- The suite a document describes. -/
def readSuite : Value → Except Fault Suite
  | .map es => do
    let templates ← readTemplates (lookup es "templates")
    pure ⟨strField (lookup es "version"), strField (lookup es "name"), templates⟩
  | _ => .ok ⟨"", "", []⟩

/-! ### Reading fails only on a long integer -/

theorem LongInt.of_lookup {es : List (Value × Value)} {k : String} {v : Value}
    (h : lookup es k = some v) (hv : v.LongInt) : (Value.map es).LongInt := by
  obtain ⟨key, hmem⟩ := lookup_mem h
  exact .val hmem hv

theorem readValue_eq_error {x : Value} {f : Fault} (h : readValue x = .error f) :
    f = Scalar.overlong ∧ x.LongInt := by
  unfold readValue at h
  split at h
  · cases h
  · exact Value.text_eq_error (Except.map_eq_error.mp h)

theorem readName_eq_error {i : Nat} {es : List (Value × Value)} {f : Fault}
    (h : readName i (lookup es "name") = .error f) : f = Scalar.overlong ∧ (Value.map es).LongInt := by
  unfold readName at h
  split at h
  · next x hx => exact (Value.text_eq_error h).imp_right (LongInt.of_lookup hx)
  · cases h

theorem readValues_eq_error {es : List (Value × Value)} {f : Fault}
    (h : readValues (lookup es "values") = .error f) :
    f = Scalar.overlong ∧ (Value.map es).LongInt := by
  unfold readValues at h
  split at h
  · next xs hx =>
    obtain ⟨x, hmem, hxe⟩ := List.exists_of_mapM_error h
    exact (readValue_eq_error hxe).imp_right fun hl => LongInt.of_lookup hx (.seq hmem hl)
  · cases h

theorem readWant_eq_error {es : List (Value × Value)} {f : Fault}
    (h : readWant (lookup es "want") = .error f) : f = Scalar.overlong ∧ (Value.map es).LongInt := by
  unfold readWant at h
  split at h
  · next x hx => exact (Value.text_eq_error h).imp_right (LongInt.of_lookup hx)
  · cases h

theorem readCase_eq_error {i : Nat} {c : Value} {f : Fault} (h : readCase i c = .error f) :
    f = Scalar.overlong ∧ c.LongInt := by
  cases c with
  | map es =>
    simp only [readCase, Except.bind_eq_error] at h
    rcases h with hname | ⟨name, -, hvalues | ⟨values, -, hwant | ⟨want, -, h⟩⟩⟩
    · exact readName_eq_error hname
    · exact readValues_eq_error hvalues
    · exact readWant_eq_error hwant
    · cases h
  | _ => cases h

theorem readCasesFrom_eq_error {cs : List Value} {i : Nat} {f : Fault}
    (h : readCasesFrom cs i = .error f) : f = Scalar.overlong ∧ ∃ c ∈ cs, c.LongInt := by
  obtain ⟨p, hp, hpe⟩ := List.exists_of_mapM_error h
  obtain ⟨rfl, hl⟩ := readCase_eq_error hpe
  exact ⟨rfl, p.1, List.fst_mem_of_mem_zipIdx hp, hl⟩

theorem readTemplate_eq_error {name : String} {cfg : Value} {f : Fault}
    (h : readTemplate name cfg = .error f) : f = Scalar.overlong ∧ cfg.LongInt := by
  cases cfg with
  | map es =>
    simp only [readTemplate, Except.bind_eq_error] at h
    rcases h with hcases | ⟨cases, -, h⟩
    · unfold readCases at hcases
      split at hcases
      · next cs hx =>
        obtain ⟨rfl, c, hc, hl⟩ := readCasesFrom_eq_error hcases
        exact ⟨rfl, LongInt.of_lookup hx (.seq hc hl)⟩
      · cases hcases
    · cases h
  | _ => cases h

theorem readEntry_eq_error {e : Value × Value} {f : Fault} (h : readEntry e = .error f) :
    f = Scalar.overlong ∧ (e.1.LongInt ∨ e.2.LongInt) := by
  simp only [readEntry, Except.bind_eq_error] at h
  rcases h with hname | ⟨name, -, h⟩
  · exact (Value.text_eq_error hname).imp_right .inl
  · exact (readTemplate_eq_error h).imp_right .inr

theorem readTemplates_eq_error {es : List (Value × Value)} {f : Fault}
    (h : readTemplates (lookup es "templates") = .error f) :
    f = Scalar.overlong ∧ (Value.map es).LongInt := by
  unfold readTemplates at h
  split at h
  · next tes hx =>
    obtain ⟨e, he, hee⟩ := List.exists_of_mapM_error h
    obtain ⟨rfl, hl⟩ := readEntry_eq_error hee
    refine ⟨rfl, LongInt.of_lookup hx ?_⟩
    rcases hl with hk | hv
    · exact .key he hk
    · exact .val he hv
  · cases h

/-- Reading a suite off a document fails only on an integer too long to write. -/
theorem readSuite_eq_error {D : Value} {f : Fault} (h : readSuite D = .error f) :
    f = Scalar.overlong ∧ D.LongInt := by
  cases D with
  | map es =>
    simp only [readSuite, Except.bind_eq_error] at h
    rcases h with htemplates | ⟨templates, -, h⟩
    · exact readTemplates_eq_error htemplates
    · cases h
  | _ => cases h

end Suite

end CiteForm

import CiteForm.Suite.Basic
import CiteForm.Document.Value
import CiteForm.Analysis.Lint
import CiteForm.Analysis.Labels
/-!
# Validating a suite document

A suite document is a mapping with a `version`, which must be the string `1`, an optional
string `name`, and a non-empty mapping `templates` from names to template configurations.
A configuration holds a `template` string free of nesting errors, and optionally a string
`spec`, a list of strings `args` (taken from the spec when absent) and a list of `cases`.
A case holds optional `name` (a string or an integer; its index by default), optional
`values` (strings, numbers, or null) and a `want` (a string or a number). Numbers are kept
as their text. Case names are distinct within a template.

Validation goes on past a problem and reports every one it finds, in document order; only a
document that is not a mapping stops it at once, and so does a fault, such as a name or value
that is an integer too long to write.

The document may be any `Document`: a tree of values, or a store whose parts are shared.
Validation looks only as deep as the schema goes.

* `Suite.ofDocument` — the suite a document describes, or its problems.
-/

namespace CiteForm

open CiteForm.Analysis

/-- Validation that collects problems as it goes, and stops at a fault: a run gives its result
beside the problems it found, in the order found, or the fault that stopped it. -/
structure Checking (β : Type) where
  run : Except Fault (β × List Problem)

namespace Checking

/-- A check run with the problems `ps` found before it. -/
def after {β : Type} (ps : List Problem) (x : Checking β) : Checking β :=
  match x.run with
  | .error f => ⟨.error f⟩
  | .ok (b, qs) => ⟨.ok (b, ps ++ qs)⟩

instance : Monad Checking where
  pure b := ⟨.ok (b, [])⟩
  bind x f := match x.run with
    | .error e => ⟨.error e⟩
    | .ok (b, ps) => after ps (f b)

instance : MonadLift (Except Fault) Checking where
  monadLift x := match x with
    | .error e => ⟨.error e⟩
    | .ok b => ⟨.ok (b, [])⟩

end Checking

/-- Records a problem at a path. -/
def flag (path message : String) : Checking Unit :=
  ⟨.ok ((), [⟨message, path⟩])⟩

/-- Records a problem at a path when `c` holds. -/
def flagIf (c : Bool) (path message : String) : Checking Unit :=
  if c then flag path message else pure ()

namespace Suite

variable {α : Type} [Document α]

/-- The text of a part that is a scalar, as names are written; collections are never names. -/
def textOf (x : α) : Checking String :=
  match Document.level x with
  | .scalar s => liftM (m := Except Fault) s.text
  | _ => pure ""

/-- The text of a part that a field value may be: a string, or a number written as text.
Booleans and everything else have none. -/
def fieldText? (x : α) : Checking (Option String) :=
  match Document.level x with
  | .scalar (.str s) => pure (some s)
  | .scalar (.int n) => some <$> liftM (m := Except Fault) (Scalar.int n).text
  | .scalar (.float f) => some <$> liftM (m := Except Fault) (Scalar.float f).text
  | _ => pure none

/-- The value of a mapping's entry whose key is the string `k`, if any. -/
def lookup (es : List (α × α)) (k : String) : Option α :=
  (es.find? fun e => (Document.level e.1).isStr k).map Prod.snd

/-- The keys of a mapping's entries that are not among the strings `known`. -/
def unknownKeys (es : List (α × α)) (known : List String) : List α :=
  (es.map Prod.fst).filter fun k => match Document.level k with
    | .scalar (.str s) => !known.contains s
    | _ => true

/-- Whether a part is null. -/
def isNull (x : α) : Bool :=
  match Document.level x with
  | .scalar .null => true
  | _ => false

/-- The values of case `i`, absent meaning none: a list whose items are null or have a text;
`none` after a problem. -/
def checkValues (tname : String) (i : Nat) (path : String) :
    Option α → Checking (Option (List (Option String)))
  | none => pure (some [])
  | some v =>
    match Document.level v with
    | .seq xs => go xs 0 []
    | _ => do
      flag path s!"Template '{tname}': case {i} 'values' must be a list"
      pure none
where
  go : List α → Nat → List (Option String) → Checking (Option (List (Option String)))
    | [], _, acc => pure (some acc.reverse)
    | x :: rest, j, acc => do
      if isNull x then go rest (j + 1) (none :: acc)
      else
        match ← fieldText? x with
        | some t => go rest (j + 1) (some t :: acc)
        | none =>
          let kind := (Document.level x).kind
          flag (path ++ ".values[" ++ toString j ++ "]")
            s!"Template '{tname}': case {i} value {j} must be a string or null, got {kind}"
          pure none

/-- The name of a case: a string, or an integer or boolean written as text. -/
def caseName? (x : α) : Checking (Option String) :=
  match Document.level x with
  | .scalar (.str s) => pure (some s)
  | .scalar (.int n) => some <$> liftM (m := Except Fault) (Scalar.int n).text
  | .scalar (.bool b) => pure (some (if b then "True" else "False"))
  | _ => pure none

/-- The name of case `i`: its `name`, or its index when it has none; `none` when the name is
not a string, an integer or a boolean. -/
def nameOf (i : Nat) : Option α → Checking (Option String)
  | some x => caseName? x
  | none => pure (some (toString i))

/-- The wanted citation of a case, if it is a string or a number. -/
def wantOf : Option α → Checking (Option String)
  | some x => fieldText? x
  | none => pure none

/-- Checks case `i` of template `tname`, given the case names seen so far; returns the case
if it is valid, and the names seen after it. -/
def checkCase (tname path : String) (i : Nat) (seen : List String) (c : α) :
    Checking (Option Case × List String) := do
  let cpath := path ++ "[" ++ toString i ++ "]"
  match Document.level c with
  | .map es =>
    for k in unknownKeys es ["name", "values", "want"] do
      flag cpath s!"Template '{tname}': case {i} unknown field '{← textOf k}'"
    match ← nameOf i (lookup es "name") with
    | none =>
      flag cpath s!"Template '{tname}': case {i} name must be a string"
      pure (none, seen)
    | some cname =>
      flagIf (seen.contains cname) cpath s!"Template '{tname}': duplicate case name '{cname}'"
      let values ← checkValues tname i cpath (lookup es "values")
      match ← wantOf (lookup es "want") with
      | none =>
        flag cpath s!"Template '{tname}': case {i} missing required 'want' string"
        pure (none, cname :: seen)
      | some want => pure (values.map fun vs => ⟨cname, vs, want⟩, cname :: seen)
  | _ =>
    flag cpath s!"Template '{tname}': case {i} must be a dictionary"
    pure (none, seen)

/-- The valid cases of template `tname`; absent or null means none. -/
def checkCases (tname : String) (v : Option α) : Checking (List Case) :=
  let path := "templates." ++ tname ++ ".cases"
  match v with
  | none => pure []
  | some v =>
    match Document.level v with
    | .scalar .null => pure []
    | .seq cs => go path cs 0 [] []
    | _ => do
      flag path s!"Template '{tname}': 'cases' must be a list"
      pure []
where
  go (path : String) : List α → Nat → List String → List Case → Checking (List Case)
    | [], _, _, acc => pure acc.reverse
    | c :: rest, i, seen, acc => do
      let (r, seen) ← checkCase tname path i seen c
      go path rest (i + 1) seen (match r with | some x => x :: acc | none => acc)

/-- The argument labels of a template: the `args` list, or when it is absent or null the
labels of its spec. -/
def checkArgs (tname path : String) (spec : Option String) (v : Option α) :
    Checking (List String) :=
  let fromSpec : List String := match spec with
    | some s => if s.isEmpty then [] else extractLabels s
    | none => []
  match v with
  | none => pure fromSpec
  | some v =>
    if isNull v then pure fromSpec
    else
      let strs := match Document.level v with
        | .seq xs => xs.mapM fun x => match Document.level x with
          | .scalar (.str s) => some s
          | _ => none
        | _ => none
      match strs with
      | some ss => pure ss
      | none => do
        flag (path ++ ".args") s!"Template '{tname}': 'args' must be a list of strings"
        pure []

/-- A template's spec: none when absent or null; anything but a string is a problem. -/
def checkSpec (tname path : String) : Option α → Checking (Option String)
  | none => pure none
  | some v =>
    match Document.level v with
    | .scalar .null => pure none
    | .scalar (.str s) => pure (some s)
    | _ => do
      flag (path ++ ".spec") s!"Template '{tname}': 'spec' must be a string"
      pure none

/-- Checks one named template configuration. -/
def checkTemplate (tname : String) (cfg : α) : Checking (Option Template) := do
  let path := "templates." ++ tname
  match Document.level cfg with
  | .map es =>
    for k in unknownKeys es ["template", "spec", "args", "cases"] do
      flag path s!"Template '{tname}': unknown field '{← textOf k}'"
    match (lookup es "template").map Document.level with
    | some (.scalar (.str t)) =>
      for issue in lint t.toList do
        flagIf (!issue.isWarning) (path ++ ".template") s!"Template '{tname}': {issue.message}"
      let spec ← checkSpec tname path (lookup es "spec")
      let args ← checkArgs tname path spec (lookup es "args")
      let cases ← checkCases tname (lookup es "cases")
      pure (some ⟨tname, t, args, spec, cases⟩)
    | _ =>
      flag path s!"Template '{tname}' missing required 'template' string"
      pure none
  | _ =>
    flag path s!"Template '{tname}' must be a dictionary"
    pure none

/-- The version of a suite, which must be the string `1`. -/
def checkVersion : Option α → Checking String
  | none => do
    flag "" "'version' field is required"
    pure ""
  | some v =>
    match Document.level v with
    | .scalar .null => do
      flag "" "'version' field is required"
      pure ""
    | .scalar (.str v) => do
      flagIf (v != "1") "" s!"Unsupported version '{v}'. Supported: ['1']"
      pure v
    | l => do
      flag "" s!"'version' field must be a string, got {l.kind}"
      pure ""

/-- The name of a suite: a string, empty when absent. -/
def checkName : Option α → Checking String
  | none => pure ""
  | some v =>
    match Document.level v with
    | .scalar (.str s) => pure s
    | l => do
      flag "name" s!"'name' must be a string, got {l.kind}"
      pure ""

/-- The valid templates of a suite, from a non-empty mapping of named configurations. -/
def checkTemplates : Option α → Checking (List Template)
  | none => do
    flag "" "'templates' field is required and must not be empty"
    pure []
  | some v =>
    let l := Document.level v
    if l.isEmpty then do
      flag "" "'templates' field is required and must not be empty"
      pure []
    else
      match l with
      | .map tes => tes.filterMapM fun (k, cfg) => do checkTemplate (← textOf k) cfg
      | _ => do
        flag "" "'templates' must be a dictionary of named templates"
        pure []

/-- Checks the fields of a suite document's top mapping. -/
def checkTop (es : List (α × α)) : Checking Suite := do
  let version ← checkVersion (lookup es "version")
  for k in unknownKeys es ["version", "name", "templates"] do
    flag "" s!"Unknown field '{← textOf k}'"
  let name ← checkName (lookup es "name")
  let templates ← checkTemplates (lookup es "templates")
  pure ⟨version, name, templates⟩

end Suite

/-- The suite a document describes, or every problem found in it, or the fault that stopped
checking. -/
def Suite.ofDocument {α : Type} [Document α] (doc : α) : Except SuiteError Suite :=
  match Document.level doc with
  | .map es =>
    match (Suite.checkTop es).run with
    | .ok (s, ps) => if ps.isEmpty then .ok s else .error (.invalid ps)
    | .error f => .error (.fault f)
  | _ => .error (.invalid [⟨"Suite must be a YAML object/dictionary", ""⟩])

end CiteForm

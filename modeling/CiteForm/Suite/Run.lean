import CiteForm.Suite.Basic
import CiteForm.Template.Format
/-!
# Running a suite

Every case of every template, or of the one template asked for, is rendered with the safe
form of formatting and compared with what it must give.

* `Suite.run` — the outcome of each case, named `template/case`.
-/

namespace CiteForm

/-- The outcome of one case. -/
structure Outcome where
  name : String
  got : String
  want : String
  deriving DecidableEq, Repr

/-- Whether the case rendered what it must. -/
def Outcome.passed (o : Outcome) : Bool := o.got == o.want

/-- A run asked for a template the suite does not have. -/
structure MissingTemplate where
  template : String
  suite : String
  deriving DecidableEq, Repr

/-- The message of a missing template. -/
def MissingTemplate.message (m : MissingTemplate) : String :=
  "Template '" ++ m.template ++ "' not found in suite '" ++ m.suite ++ "'"

namespace Suite

/-- The outcomes of one template's cases. -/
def Template.outcomes (keep : Text.Keep) (t : Template) : List Outcome :=
  t.cases.map fun c =>
    ⟨t.name ++ "/" ++ c.name, Template.formatSafe keep t.template c.values, c.want⟩

/-- Runs the whole suite, or only the first template named `only`, in a run whose surrogates
`keep` keeps. -/
def run (keep : Text.Keep) (s : Suite) (only : Option String) :
    Except MissingTemplate (List Outcome) :=
  match only with
  | none => .ok (s.templates.flatMap (Template.outcomes keep))
  | some n =>
    match s.find? n with
    | some t => .ok (t.outcomes keep)
    | none => .error ⟨n, s.name⟩

end Suite

end CiteForm

import CiteForm.Document.Value
/-!
# Style suites

A style suite is a set of named templates, each with the labels of its arguments, the
shorthand spec they may come from, and cases: field values together with the citation they
must render to.

* `Suite`, `Suite.Template`, `Suite.Case` — the suite and its parts.
* `Suite.find?` — the first template of a name.
* `Problem` — one thing wrong with a suite document, and where.
* `SuiteError` — why a suite cannot be had: its problems, or a fault.
-/

namespace CiteForm

/-- One expected rendering of a template. -/
structure Suite.Case where
  name : String
  values : List (Option String)
  want : String
  deriving DecidableEq, Repr

/-- A named template with its argument labels, spec and cases. -/
structure Suite.Template where
  name : String
  template : String
  args : List String
  spec : Option String
  cases : List Suite.Case
  deriving DecidableEq, Repr

/-- A validated style suite. -/
structure Suite where
  version : String
  name : String
  templates : List Suite.Template
  deriving DecidableEq, Repr

/-- The first template of the suite with the given name. -/
def Suite.find? (s : Suite) (name : String) : Option Suite.Template :=
  s.templates.find? (·.name == name)

/-- One thing wrong with a suite document: a message and the path of the field it is about,
empty for the document as a whole. -/
structure Problem where
  message : String
  path : String
  deriving DecidableEq, Repr

/-- How a problem is reported: with its path, when it has one. -/
def Problem.line (p : Problem) : String :=
  if p.path.isEmpty then "Validation error: " ++ p.message
  else "Validation error at " ++ p.path ++ ": " ++ p.message

/-- The report of several problems, one a line. -/
def Problem.report (ps : List Problem) : String :=
  "\n".intercalate (ps.map Problem.line)

/-- The exit status of a run that found problems in a suite. -/
def Problem.exitCode : Nat := 2

/-- Why a suite cannot be had. -/
inductive SuiteError where
  /-- The problems found in the file or its document. -/
  | invalid (problems : List Problem)
  /-- A fault that ended reading or checking at once. -/
  | fault (f : Fault)
  deriving DecidableEq, Repr

end CiteForm

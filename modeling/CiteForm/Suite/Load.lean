import CiteForm.Suite.Validate
import CiteForm.Yaml.Load
/-!
# Loading a suite file

A suite file is a YAML document that validates as a suite. A file that is missing, or
whose text is no YAML document, gives a single problem that says so; a value that a scalar's
tag promises but its text does not spell is a fault.

* `Found` — what a path leads to.
* `Suite.load` — the suite of the file found at a path.
-/

namespace CiteForm

/-- What a path leads to: a file with its text, nothing, or a folder. -/
inductive Found where
  | file (text : String)
  | nothing
  | folder
  deriving DecidableEq, Repr

/-- Why the file at `path` cannot be opened, if it cannot. -/
def Found.openError (path : String) : Found → Option String
  | .file _ => none
  | .nothing => some ("[Errno 2] No such file or directory: " ++ Text.quote path)
  | .folder => some ("[Errno 21] Is a directory: " ++ Text.quote path)

/-- The suite of the file found at `path`, in a run whose surrogates `keep` keeps, loaded with
`depth` calls in progress. -/
def Suite.load (keep : Text.Keep) (depth : Nat) (path : String) (found : Found) :
    Except SuiteError Suite :=
  let failed (detail : String) : Except SuiteError Suite :=
    .error (.invalid [⟨"Failed to load suite: " ++ detail, ""⟩])
  match found with
  | .file text =>
    match Yaml.load keep (depth + 1) (Yaml.fileText text.toList) with
    | .ok doc => Suite.ofDocument doc
    | .error (.fault f) => .error (.fault f)
    | .error e => failed (e.render path)
  | f => failed ((f.openError path).getD "")

end CiteForm

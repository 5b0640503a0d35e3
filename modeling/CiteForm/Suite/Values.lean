import CiteForm.Suite.Load
/-!
# Values files

A values file lists the positional field values of a citation: each item is a string, a
number (kept as its text) or null.

* `ValuesError` — why a values file cannot be used, with its message.
* `fieldValuesOf` — the field values a document lists.
* `loadFieldValues` — the field values of the file found at a path.
-/

namespace CiteForm

/-- Why a values file cannot be used. -/
inductive ValuesError where
  /-- No file at the path. -/
  | missing (path : String)
  /-- The path leads to a folder. -/
  | folder (path : String)
  /-- The file is not a readable document; `detail` says why. -/
  | unreadable (path : String) (detail : String)
  /-- The document is not a list. -/
  | notAList (kind : String)
  /-- Item `index` is neither text, a number nor null. -/
  | badItem (index : Nat) (kind : String)
  /-- A fault of building a value or of writing a number as text. -/
  | fault (f : Fault)
  deriving DecidableEq, Repr

/-- The message of a values file error. -/
def ValuesError.message : ValuesError → String
  | .missing p => "Values file not found: " ++ p
  | .folder p => ((Found.folder.openError p).getD "")
  | .unreadable p d => "Failed to parse values file " ++ p ++ ": " ++ d
  | .notAList k => "Values file must contain a list, got " ++ k
  | .badItem i k => "Value " ++ toString i ++ " must be a string or null, got " ++ k
  | .fault f => f.message

/-- The kind of failure a values file error is reported as. -/
def ValuesError.kind : ValuesError → String
  | .missing _ => "FileNotFoundError"
  | .folder _ => "IsADirectoryError"
  | .fault f => f.kind
  | _ => "ValueError"

/-- Whether the file was missing altogether, as opposed to unusable. -/
def ValuesError.isMissing : ValuesError → Bool
  | .missing _ => true
  | _ => false

/-- The field values a document lists. -/
def fieldValuesOf {α : Type} [Document α] (doc : α) :
    Except ValuesError (List (Option String)) :=
  match Document.level doc with
  | .seq xs => go xs 0
  | l => .error (.notAList l.kind)
where
  go : List α → Nat → Except ValuesError (List (Option String))
    | [], _ => .ok []
    | x :: rest, i =>
      let item : Except ValuesError (Option String) := match Document.level x with
        | .scalar .null => .ok none
        | .scalar (.str s) => .ok (some s)
        | .scalar (.int n) => ((Scalar.int n).text.mapError .fault).map some
        | .scalar (.float f) => ((Scalar.float f).text.mapError .fault).map some
        | l => .error (.badItem i l.kind)
      match item with
      | .ok v => (v :: ·) <$> go rest (i + 1)
      | .error e => .error e

/-- The field values of the file found at `path`, in a run whose surrogates `keep` keeps,
loaded with `depth` calls in progress. -/
def loadFieldValues (keep : Text.Keep) (depth : Nat) (path : String) (found : Found) :
    Except ValuesError (List (Option String)) :=
  match found with
  | .file text =>
    match Yaml.load keep (depth + 1) (Yaml.fileText text.toList) with
    | .ok doc => fieldValuesOf doc
    | .error (.fault f) => .error (.fault f)
    | .error e => .error (.unreadable path (e.render path))
  | .folder => .error (.folder path)
  | .nothing => .error (.missing path)

end CiteForm

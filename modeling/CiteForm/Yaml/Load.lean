import CiteForm.Yaml.Store
/-!
# Loading a YAML document

A data file is read as text with its line ends made uniform: a carriage return, alone or
before a line feed, becomes a line feed. Its only document is composed and its values built;
a text without a document stands for null.

* `fileText` — a file's text as a document reader sees it.
* `load` — the root of a text's only document.
-/

namespace CiteForm.Yaml

/-- A file's text as read: each carriage return, alone or before a line feed, is a line
feed. -/
def fileText : List Char → List Char
  | [] => []
  | '\r' :: '\n' :: rest => '\n' :: fileText rest
  | '\r' :: rest => '\n' :: fileText rest
  | c :: rest => c :: fileText rest

/-- The root of a text's only document, in a run whose surrogates `keep` keeps, read with
`outer` calls in progress; null when it has none. -/
def load (keep : Text.Keep) (outer : Nat) (cs : List Char) : Except LoadError Part := do
  match ← Graph.ofText? keep outer cs with
  | none => pure ⟨#[.scalar .null], 0⟩
  | some g => g.build keep outer

end CiteForm.Yaml

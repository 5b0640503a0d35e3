import CiteForm.Analysis.Nesting
import CiteForm.Template.Placeholder
/-!
# Markers

Markers place the findings on a text for an editor: each has a message, a severity and an
index in code points. They are found on the text with its fold tokens expanded.

1. An error at each closer that matches nothing, in text order.
2. An error at each opener left unclosed, from the bottom of the stack up.
3. When the number of declared arguments is given and the text has another number of
   `%s` marks, a warning at index 0.

* `markers` — the markers of a text.
-/

namespace CiteForm.Analysis

/-- How serious a marker is. -/
inductive Severity where
  | error
  | warning
  deriving DecidableEq, Repr

/-- The word for a severity. -/
def Severity.name : Severity → String
  | error => "error"
  | warning => "warning"

/-- A finding placed at an index of the text. -/
structure Marker where
  message : String
  severity : Severity
  index : Nat
  deriving DecidableEq, Repr

/-- The warning that the text's `%s` marks and the declared arguments differ in number. -/
def driftMarker (found declared : Int) : Marker :=
  ⟨"%s count (" ++ toString found ++ ") differs from Arguments count (" ++ toString declared ++
    ")", .warning, 0⟩

/-- The markers of `text` once its fold tokens are replaced by `pieces`; `arguments` is the
number of declared arguments, if any. -/
def markers (text : String) (pieces : List String) (arguments : Option Int) : List Marker :=
  let cs := (Template.expandFolds text pieces).toList
  let n := Nesting.scan cs
  n.unmatched.map (fun (c, i) => ⟨"Unmatched " ++ String.singleton c, .error, i⟩)
    ++ n.unclosed.map (fun (c, i) => ⟨"Unclosed " ++ String.singleton c, .error, i⟩)
    ++ match arguments with
      | some m =>
        let k := Template.placeholderCount cs
        if (k : Int) = m then [] else [driftMarker k m]
      | none => []

end CiteForm.Analysis

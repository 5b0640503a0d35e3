import CiteForm.Template.Placeholder
import CiteForm.Template.Render
/-!
# Formatting a citation

A citation is a template with its field values put in and then rendered. The safe form
never fails: an error becomes its message, marked as coming from the engine. The message
quotes text with the keep of the run, since field values may come from a document.

* `format` — substitute, then evaluate.
* `formatSafe` — `format`, with an error written as text.
-/

namespace CiteForm.Template

/-- The template with its values put in, rendered. -/
def format (template : String) (values : List (Option String)) : Except RenderError String :=
  evaluate (substitute template values)

/-- How an error reads when the safe form reports it. -/
def RenderError.report (keep : Text.Keep) (e : RenderError) : String :=
  "Engine error: " ++ e.message keep

/-- `format`, with an error written as its report. -/
def formatSafe (keep : Text.Keep) (template : String) (values : List (Option String)) :
    String :=
  match format template values with
  | .ok s => s
  | .error e => e.report keep

end CiteForm.Template
